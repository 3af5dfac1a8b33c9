import SqlDesk.Json.Basic

/-! Records in JSON. A record is an object with known names, in any order and among unknown ones,
or an array of its fields in order, in which fields may be missing at the end. A known name may not
be repeated. -/

set_option autoImplicit false

namespace SqlDesk.Json

def asString? : Json → Option String
  | string value => some value
  | _ => none

def asBool? : Json → Option Bool
  | bool value => some value
  | _ => none

def asInteger? (least bound : Int) : Json → Option Int
  | integer value => if least ≤ value ∧ value < bound then some value else none
  | _ => none

def asSigned? (bits : Nat) (json : Json) : Option Int :=
  asInteger? (-(Text.wordBound (bits - 1) : Int)) (Text.wordBound (bits - 1)) json

def asUnsigned? (bits : Nat) (json : Json) : Option Nat :=
  (asInteger? 0 (Text.wordBound bits) json).map Int.toNat

def valuesOf (members : List (String × Json)) (name : String) : List Json :=
  members.filterMap fun member => if member.1 = name then some member.2 else none

def objectFields? (names : List String) (members : List (String × Json)) :
    Option (List (Option Json)) :=
  names.mapM fun name => match valuesOf members name with
    | [] => some none
    | [value] => some (some value)
    | _ => none

def fields? (names : List String) : Json → Option (List (Option Json))
  | object members => objectFields? names members
  | array items =>
    if items.length ≤ names.length then
      some (items.map some ++ List.replicate (names.length - items.length) none)
    else none
  | _ => none

def required? {α : Type} (read : Json → Option α) (field : Option Json) : Option α :=
  field.bind read

def defaulted? {α : Type} (default : α) (read : Json → Option α) : Option Json → Option α
  | none => some default
  | some json => read json

def optional? {α : Type} (read : Json → Option α) : Option Json → Option (Option α)
  | none | some null => some none
  | some json => (read json).map some

end SqlDesk.Json
