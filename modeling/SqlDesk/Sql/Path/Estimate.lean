import SqlDesk.Sql.Statement

/-! Estimates of how many rows there are and what it costs to go through them. An estimate is ten times a
binary logarithm, so that estimates are multiplied by adding them. -/

set_option autoImplicit false

namespace SqlDesk.Sql

abbrev Estimate := Int

namespace Estimate

def ofCount (count : Nat) : Estimate :=
  if count < 2 then 0
  else
    let exponent := Nat.log2 count
    let eighths :=
      if exponent < 3 then count * Nat.pow 2 (3 - exponent) % 8
      else count / Nat.pow 2 (exponent - 3) % 8
    [0, 2, 3, 5, 6, 7, 8, 9].getD eighths 0 + 10 * exponent

/-- What a smaller estimate adds to one that is greater by some steps. -/
def carries : List Nat :=
  [10, 10, 9, 9, 8, 8, 7, 7, 7, 6, 6, 6, 5, 5, 5, 4, 4, 4, 4, 3, 3, 3, 3, 3, 3, 2, 2, 2, 2, 2, 2, 2]

def both (left right : Estimate) : Estimate :=
  let greater := max left right
  let steps := (greater - min left right).toNat
  if 49 < steps then greater
  else if 31 < steps then greater + 1
  else greater + carries.getD steps 0

def search (rows : Estimate) : Estimate :=
  if rows ≤ 10 then 0 else ofCount rows.toNat - 33

end Estimate

namespace ColumnDefinition

/-- What follows the last occurrence of a piece in a text, in any case of the letters. -/
def after? (piece : String) (chars : List Char) : Option (List Char) :=
  match chars with
  | [] => none
  | c :: rest =>
    let front := (c :: rest).take piece.length
    match after? piece rest with
    | some last => some last
    | none =>
      if Text.sameIgnoringCase front piece.toList then some ((c :: rest).drop piece.length) else none

def widthOf (chars : List Char) : Nat :=
  let digits := (chars.dropWhile (!isDigit ·)).takeWhile isDigit
  let value := Decimal.Numeral.digitsValue digits
  if value < Text.wordBound 31 then min 255 (value / 4 + 1) else 1

/-- How wide a column is taken to be, a number being one. -/
def width (column : ColumnDefinition) : Nat :=
  match column.declared with
  | none => 1
  | some declared =>
    let chars := declared.toList
    if column.affinity.isNumeric then 1
    else match after? "CHAR" chars with
      | some rest => widthOf rest
      | none => match after? "BLOB" chars with
        | some ('(' :: rest) => widthOf rest
        | _ => 5

end ColumnDefinition

def tableRows : Estimate := 200

/-- How many rows are taken to have the same values in the first of so many columns, where no two rows
have the same values in all of them. -/
def repetitions (columns matched : Nat) : Estimate :=
  if matched = 0 then tableRows
  else if columns ≤ matched then 0
  else ([33, 32, 30, 28, 27] : List Int).getD (matched - 1) 23

namespace TableDefinition

def widthAt (table : TableDefinition) (place : Nat) : Nat :=
  ((table.columns[place]?).map ColumnDefinition.width).getD 1

def rowWidth (table : TableDefinition) : Estimate :=
  .ofCount (4 * (table.columns.map ColumnDefinition.width).foldr (· + ·)
    (if table.numberPlace.isSome then 0 else 1))

/-- How wide the columns of a constraint are together with the number of the row. -/
def keyWidth (table : TableDefinition) (uniqueness : Uniqueness) : Estimate :=
  .ofCount (4 * (uniqueness.places.map table.widthAt).foldr (· + ·) 1)

end TableDefinition

end SqlDesk.Sql
