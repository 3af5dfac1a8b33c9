import SqlDesk.Decimal.Numeral
import SqlDesk.Decimal.Style
import SqlDesk.Regex.Reader
import SqlDesk.Text.Offset

/-! The filter of a log: a list of directives, each a level for a target, for a span, for fields of a
span or for everything else. A directive without level lets everything through that it is about. A
directive that needs no value of a field and no name of a span also holds outside spans. -/

set_option autoImplicit false

namespace SqlDesk

inductive LogLevel where
  | off
  | error
  | warn
  | info
  | debug
  | trace
  deriving DecidableEq, Repr

namespace LogLevel

def all : List LogLevel := [off, error, warn, info, debug, trace]

def name : LogLevel → String
  | off => "off"
  | error => "error"
  | warn => "warn"
  | info => "info"
  | debug => "debug"
  | trace => "trace"

def ofEvents : List LogLevel := [error, warn, info, debug, trace]

def ofText? (text : List Char) : Option LogLevel :=
  match Text.readNatural? all.length text with
  | some index => all[index]?
  | none => all.find? fun level => Text.sameIgnoringCase level.name.toList text

end LogLevel

/-- What a field has to be: a value, or a text of a pattern. A number without a sign differs from one
with a sign. -/
inductive LogValue where
  | boolean (value : Bool)
  | natural (value : Nat)
  | integer (value : Int)
  | real (negative : Bool) (magnitude : Nat)
  | nan
  | pattern (text : String)
  deriving DecidableEq, Repr

namespace LogValue

def realStyle : Decimal.Style := { Decimal.plain with infinity := "inf" }

def text : LogValue → String
  | boolean value => if value then "true" else "false"
  | natural value => toString value
  | integer value => toString value
  | real negative magnitude =>
    (if negative then "-" else "") ++ realStyle.write Decimal.binary64 magnitude
  | nan => realStyle.nan
  | pattern text => text

/-- The value without the sign of a zero. -/
def unsignedZero : LogValue → LogValue
  | real _ 0 => real false 0
  | value => value

def natural? (text : List Char) : Option Nat := Text.readNatural? (Text.wordBound 64) text

def negative? : List Char → Option Int
  | '-' :: digits =>
    if digits.head? = some '+' then none
    else (Text.readNatural? (Text.wordBound 63 + 1) digits).map fun value => -value
  | _ => none

def magnitude? (text : List Char) : Option LogValue :=
  if ["inf", "infinity"].any fun word => Text.sameIgnoringCase text word.toList then
    some (.real false Decimal.binary64.infinity)
  else if Text.sameIgnoringCase text "nan".toList then some nan
  else (Decimal.Numeral.ofChars? text).map fun numeral => .real false numeral.magnitude

def real? : List Char → Option LogValue
  | '-' :: text => (magnitude? text).map fun
      | .real _ magnitude => .real true magnitude
      | value => value
  | '+' :: text | text => magnitude? text

/-- A value is the first of its kinds that a text is, and a pattern at last. -/
def ofText? (text : List Char) : Option LogValue :=
  if text = "true".toList then some (boolean true)
  else if text = "false".toList then some (boolean false)
  else ((natural? text).map natural).orElse fun _ => ((negative? text).map integer).orElse fun _ =>
    (real? text).orElse fun _ =>
      if (Regex.ofChars? text).any Regex.isUsable then some (pattern (String.ofList text)) else none

end LogValue

structure LogField where
  name : String
  value : Option LogValue
  deriving DecidableEq, Repr

namespace LogField

def text (field : LogField) : String :=
  match field.value with
  | none => field.name
  | some value => field.name ++ "=" ++ value.text

def ofText? (text : List Char) : Option LogField :=
  let isPlain := fun c => c ≠ '='
  let name := String.ofList (text.takeWhile isPlain)
  match text.dropWhile isPlain with
  | [] => if text.isEmpty then none else some ⟨name, none⟩
  | _ :: value => (LogValue.ofText? (value.takeWhile isPlain)).map fun value => ⟨name, some value⟩

def key (field : LogField) : LogField := { field with value := field.value.map LogValue.unsignedZero }

end LogField

structure LogDirective where
  target : Option String
  span : Option String
  fields : List LogField
  level : LogLevel
  deriving DecidableEq, Repr

namespace LogDirective

def spanText (directive : LogDirective) : String :=
  if directive.span.isNone && directive.fields.isEmpty then ""
  else
    let fields := String.intercalate "," (directive.fields.map LogField.text)
    "[" ++ directive.span.getD ""
      ++ (if directive.fields.isEmpty then "" else "\x7b" ++ fields ++ "\x7d") ++ "]"

def text (directive : LogDirective) : String :=
  let about := directive.target.getD "" ++ directive.spanText
  if directive.target.isNone && directive.spanText.isEmpty then directive.level.name
  else about ++ "=" ++ directive.level.name

/-- A directive in the course of reading. Places are counted in the bytes of the text without the
blanks around it, but what stands there is taken from the text as it is. -/
structure Reading where
  given : List Char
  place : Nat
  rest : List Char
  deriving DecidableEq, Repr

namespace Reading

def start (text : List Char) : Reading := ⟨text, 0, Text.trim text⟩

def tail? (reading : Reading) : Option (List Char) := Text.dropBytes? reading.place reading.given

/-- The text up to the first character of a class, and the reading from there on. -/
def upTo? (reading : Reading) (stop : Char → Bool) : Option (List Char × Reading) := do
  let passed := reading.rest.takeWhile (!stop ·)
  let size := Text.byteSize passed
  let text ← Text.takeBytes? size (← reading.tail?)
  return (text, { reading with
    place := reading.place + size, rest := reading.rest.drop passed.length })

def skip (reading : Reading) : Reading :=
  { reading with place := reading.place + 1, rest := reading.rest.drop 1 }

end Reading

def level? (reading : Reading) : Option LogLevel :=
  reading.tail?.bind fun tail => if tail.isEmpty then some .trace else LogLevel.ofText? tail

def afterSpan? (directive : LogDirective) (reading : Reading) : Option LogDirective :=
  match reading.rest with
  | [] => some directive
  | '=' :: _ => (level? reading.skip).map fun level => { directive with level }
  | _ => none

def span? (target : Option String) (reading : Reading) : Option LogDirective := do
  let (span, reading) ← reading.upTo? fun c => c = ']' || c = '\x7b'
  match reading.rest with
  | ']' :: _ => afterSpan? ⟨target, some (String.ofList span), [], .trace⟩ reading.skip
  | _ :: _ =>
    let (field, reading) ← reading.skip.upTo? (· = '\x7d')
    match reading.skip.rest with
    | ']' :: _ =>
      let field ← LogField.ofText? field
      let span := if span.isEmpty then none else some (String.ofList span)
      afterSpan? ⟨target, span, [field], .trace⟩ reading.skip.skip
    | _ => none
  | [] => none

/-- Targets begin with a letter, a number, a dash, an underscore or a colon. -/
def canBegin (c : Char) : Bool := Text.isAlphanumeric c || c = '-' || c = '_' || c = ':'

def ofText? (text : List Char) : Option LogDirective :=
  let reading := Reading.start text
  match reading.rest with
  | [] => none
  | '[' :: _ => span? none reading.skip
  | first :: _ =>
    let ends (c : Char) := c = '=' || c = '['
    if !canBegin first then none
    -- A text without a mark is a level, or else a target of which everything is logged.
    else if !reading.rest.any ends then
      match LogLevel.ofText? text with
      | some level => some ⟨none, none, [], level⟩
      | none => some ⟨some (String.ofList text), none, [], .trace⟩
    else do
      let (target, after) ← reading.upTo? ends
      let named := some (String.ofList target)
      if after.rest.head? = some '[' then span? named after.skip
      else (level? after.skip).map fun level => ⟨named, none, [], level⟩

def isAboutSpans (directive : LogDirective) : Bool :=
  directive.span.isSome || !directive.fields.isEmpty

def holdsOutside (directive : LogDirective) : Bool :=
  directive.span.isNone && directive.fields.all fun field => field.value.isNone

def key (directive : LogDirective) : LogDirective :=
  { directive with fields := directive.fields.map LogField.key, level := .off }

def addTo (known : List LogDirective) (directive : LogDirective) : List LogDirective :=
  known.filter (·.key ≠ directive.key) ++ [directive]

end LogDirective

/-- The directives that hold everywhere, and those about spans. -/
structure LogFilter where
  outside : List LogDirective
  spans : List LogDirective
  deriving DecidableEq, Repr

namespace LogFilter

def ofDirectives (directives : List LogDirective) : LogFilter :=
  let (spans, others) := directives.partition LogDirective.isAboutSpans
  { outside := (others ++ spans.filter LogDirective.holdsOutside).foldl LogDirective.addTo []
    spans := spans.foldl LogDirective.addTo [] }

def texts (filter : LogFilter) : List String :=
  (filter.outside ++ filter.spans).map LogDirective.text

def quietTargets : List LogDirective := [⟨some "rusqlite", none, [], .warn⟩]

/-- The filter of a configured level, with the quiet targets added; none if the level is no list of
directives. -/
def ofLevel? (level : String) : Option LogFilter := do
  let parts := (level.splitOn ",").filter (!·.isEmpty)
  let given ← parts.mapM fun part => LogDirective.ofText? part.toList
  return ofDirectives (given ++ quietTargets)

end LogFilter

end SqlDesk
