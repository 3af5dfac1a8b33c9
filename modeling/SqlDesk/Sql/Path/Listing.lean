import SqlDesk.Sql.Path.Estimate

/-! Orders in which the rows of a table are kept: by their numbers, and by the columns of every constraint
of uniqueness, where the number of the row comes last. -/

set_option autoImplicit false

namespace SqlDesk.Sql

structure Listing where
  /-- The number that it is known by; the one by the numbers of the rows has none. -/
  number : Option Nat
  columns : List OrderedColumn
  isKey : Bool
  width : Estimate
  deriving DecidableEq, Repr

namespace Listing

def byNumber : Listing := ⟨none, [], false, 0⟩

def size (listing : Listing) : Nat := listing.columns.length + 1

def isDescendingAt (listing : Listing) (index : Nat) : Bool :=
  ((listing.columns[index]?).map OrderedColumn.isDescending).getD false

def collationAt (listing : Listing) (index : Nat) : Collation :=
  ((listing.columns[index]?).map OrderedColumn.collation).getD .exact

end Listing

namespace TableDefinition

/-- The orders by constraints of uniqueness, the last one first. -/
def listings (table : TableDefinition) : List Listing :=
  (table.uniqueness.zipIdx 1).reverse.map fun (uniqueness, number) =>
    ⟨some number, uniqueness.columns, uniqueness.isKey, table.keyWidth uniqueness⟩

/-- The place of a column of an order; the number of the row has none. -/
def placeIn (table : TableDefinition) (listing : Listing) (index : Nat) : Option Nat :=
  ((listing.columns[index]?).map OrderedColumn.place).filter fun place => table.numberPlace ≠ some place

def isNotNullIn (table : TableDefinition) (listing : Listing) (index : Nat) : Bool :=
  match listing.columns[index]? with
  | none => true
  | some column => ((table.columns[column.place]?).map ColumnDefinition.notNull).getD false

/-- Whether all columns of an order have a value on every row. -/
def isComplete (table : TableDefinition) (listing : Listing) : Bool :=
  (List.range listing.columns.length).all fun index =>
    (table.placeIn listing index).isNone || table.isNotNullIn listing index

def covers (table : TableDefinition) (listing : Listing) (places : List Nat) : Bool :=
  places.all fun place =>
    listing.columns.any (·.place = place) || table.numberPlace = some place

def listingName (table : TableDefinition) (listing : Listing) : String :=
  table.orderName (listing.number.getD 0)

/-- The orders that may be gone through, that by the numbers of the rows first. -/
def listingsFor (table : TableDefinition) : Indexing → List Listing
  | .free => .byNumber :: table.listings
  | .byNumber => [.byNumber]
  | .named name => table.listings.filter fun listing => sameName (table.listingName listing) name

def columnNameIn (table : TableDefinition) (listing : Listing) (index : Nat) : String :=
  ((listing.columns[index]?).bind fun column =>
    (table.columns[column.place]?).map ColumnDefinition.name).getD "rowid"

def isOrdered : List OrderedColumn → NumberedRow → NumberedRow → Bool
  | [], left, right => left.1 ≤ right.1
  | column :: rest, left, right =>
    let order := compareValues column.collation (left.2.getD column.place .null)
      (right.2.getD column.place .null)
    match if column.isDescending then order.swap else order with
    | .lt => true
    | .gt => false
    | .eq => isOrdered rest left right

end TableDefinition

def Listing.arrange (listing : Listing) (rows : List NumberedRow) : List NumberedRow :=
  if listing.columns.isEmpty then rows
  else rows.mergeSort (TableDefinition.isOrdered listing.columns)

end SqlDesk.Sql
