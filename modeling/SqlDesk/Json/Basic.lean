import SqlDesk.Bytes

/-! JSON values. Members keep the order in which they were written. An integer is a number written
without point and exponent that fits a signed or an unsigned 64-bit word; every other number is a
binary64 pattern. -/

set_option autoImplicit false

namespace SqlDesk

inductive Json where
  | null
  | bool (value : Bool)
  | integer (value : Int)
  | float (bits : UInt64)
  | string (value : String)
  | array (items : List Json)
  | object (members : List (String × Json))
  deriving Repr, Inhabited

namespace Json

/-- Replaces the value of a name where it stands, or adds the name at the end. -/
def put {α : Type} (members : List (String × α)) (name : String) (value : α) : List (String × α) :=
  match members with
  | [] => [(name, value)]
  | (known, old) :: rest =>
    if known = name then (known, value) :: rest else (known, old) :: put rest name value

/-- Members in writing order; a repeated name keeps its first place and its last value. -/
def collect {α : Type} (members : List (String × α)) : List (String × α) :=
  members.foldl (fun known member => put known member.1 member.2) []

mutual

/-- Collects the members of every object inside a value. -/
def settle : Json → Json
  | array items => array (settleItems items)
  | object members => object (collect (settleMembers members))
  | scalar => scalar

def settleItems : List Json → List Json
  | [] => []
  | item :: rest => settle item :: settleItems rest

def settleMembers : List (String × Json) → List (String × Json)
  | [] => []
  | (name, value) :: rest => (name, settle value) :: settleMembers rest

end

def ofNat (value : Nat) : Json := integer value

def ofOption {α : Type} (encode : α → Json) : Option α → Json
  | none => null
  | some value => encode value

def ofPresent (members : List (String × Option Json)) : Json :=
  object (members.filterMap fun member => member.2.map (Prod.mk member.1))

end Json

end SqlDesk
