import SqlDesk.Json.Number
import SqlDesk.Text.Ascii

/-! Reading TOML texts of version 1.0. Tables remember how they were begun, since that decides
whether a later header or dotted key may add to them. A finished document is a JSON value. -/

set_option autoImplicit false

namespace SqlDesk

inductive TableOrigin where
  | header
  /-- As a step on the way to the table of a longer header. -/
  | passed
  | dotted
  deriving DecidableEq, Repr

inductive Toml where
  /-- A value written after an equals sign; nothing can be added to it. -/
  | closed (value : Json)
  | table (origin : TableOrigin) (members : List (String × Toml))
  | tables (done : List (List (String × Toml))) (last : List (String × Toml))
  deriving Inhabited

namespace Toml

abbrev Members := List (String × Toml)

mutual

def toJson : Toml → Json
  | closed value => value
  | table _ members => .object (membersToJson members)
  | tables done last => .array (tablesToJson done ++ [.object (membersToJson last)])

def membersToJson : List (String × Toml) → List (String × Json)
  | [] => []
  | (name, value) :: rest => (name, toJson value) :: membersToJson rest

def tablesToJson : List (List (String × Toml)) → List Json
  | [] => []
  | members :: rest => .object (membersToJson members) :: tablesToJson rest

end

def lookUp (members : Members) (name : String) : Option Toml := members.lookup name

/-- Goes down a path of tables, making those that are missing, and changes the members reached.
A dotted key may only pass tables that have no header; `change` is told the origin of the table. -/
def alterAt (byKey : Bool) (change : TableOrigin → Members → Option Members)
    (origin : TableOrigin) : List String → Members → Option Members
  | [], members => change origin members
  | name :: path, members => do
    match lookUp members name with
    | none =>
      let fresh := if byKey then TableOrigin.dotted else .passed
      return Json.put members name (.table fresh (← alterAt byKey change fresh path []))
    | some (.closed _) => none
    | some (.tables done last) =>
      return Json.put members name (.tables done (← alterAt byKey change .header path last))
    | some (.table known inner) =>
      if byKey && known = .header then none
      else return Json.put members name (.table known (← alterAt byKey change known path inner))

def addNew (name : String) (value : Toml) (members : Members) : Option Members :=
  match lookUp members name with
  | none => some (members ++ [(name, value)])
  | some _ => none

/-- Enters a value under a dotted key, whose last name is apart. A table is made either by dotted
keys alone or not by them at all. -/
def setKey (steps : List String) (name : String) (value : Toml) (members : Members) :
    Option Members :=
  alterAt true (fun origin inner =>
    if (origin = .dotted) = (steps = []) then none else addNew name value inner) .header steps members

def openTable (steps : List String) (name : String) (members : Members) : Option Members :=
  alterAt false (fun _ inner =>
    match lookUp inner name with
    | none => some (inner ++ [(name, .table .header [])])
    | some (.table .passed known) => some (Json.put inner name (.table .header known))
    | some _ => none) .header steps members

def openNext (steps : List String) (name : String) (members : Members) : Option Members :=
  alterAt false (fun _ inner =>
    match lookUp inner name with
    | none => some (inner ++ [(name, .tables [] [])])
    | some (.tables done last) => some (Json.put inner name (.tables (done ++ [last]) []))
    | some _ => none) .header steps members

end Toml

end SqlDesk
