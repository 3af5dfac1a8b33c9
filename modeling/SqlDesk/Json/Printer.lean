import SqlDesk.Json.Basic
import SqlDesk.Decimal.Style

/-! The compact text of a JSON value. Only the quote, the backslash and control characters are
escaped. -/

set_option autoImplicit false

namespace SqlDesk.Json

def lowerHexDigits : List Char :=
  ['0', '1', '2', '3', '4', '5', '6', '7', '8', '9', 'a', 'b', 'c', 'd', 'e', 'f']

def escapeChar (c : Char) : List Char :=
  if c = '"' then ['\\', '"']
  else if c = '\\' then ['\\', '\\']
  else if c = '\x08' then ['\\', 'b']
  else if c = '\x0c' then ['\\', 'f']
  else if c = '\n' then ['\\', 'n']
  else if c = '\r' then ['\\', 'r']
  else if c = '\t' then ['\\', 't']
  else if c.toNat < 0x20 then
    ['\\', 'u', '0', '0', lowerHexDigits.getD (c.toNat / 16) '0',
      lowerHexDigits.getD (c.toNat % 16) '0']
  else [c]

def quote (text : String) : List Char := '"' :: text.toList.flatMap escapeChar ++ ['"']

def floatChars (bits : UInt64) : List Char :=
  match Decimal.binary64.decode bits.toNat with
  | .finite .. => (Decimal.jsonStyle.write Decimal.binary64 bits.toNat).toList
  | _ => "null".toList

mutual

def chars : Json → List Char
  | null => "null".toList
  | bool value => if value then "true".toList else "false".toList
  | integer value => (toString value).toList
  | float bits => floatChars bits
  | string value => quote value
  | array items => '[' :: itemChars items
  | object members => '\x7b' :: memberChars members

def itemChars : List Json → List Char
  | [] => [']']
  | [item] => chars item ++ [']']
  | item :: next :: rest => chars item ++ ',' :: itemChars (next :: rest)

def memberChars : List (String × Json) → List Char
  | [] => ['\x7d']
  | [(name, value)] => quote name ++ ':' :: chars value ++ ['\x7d']
  | (name, value) :: next :: rest =>
    quote name ++ ':' :: chars value ++ ',' :: memberChars (next :: rest)

end

def render (json : Json) : String := String.ofList (chars json)

end SqlDesk.Json
