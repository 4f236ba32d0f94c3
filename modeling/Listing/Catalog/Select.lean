import Listing.Catalog.Like
import Listing.Catalog.Record
import Listing.Catalog.Statement
import Listing.Query
import Listing.Text.Utf8

/-!
# Selecting rows

What a query gives on the rows of a table. The database reads the text of the query and is told the
values one by one: the rows are those that meet every condition, in the order asked for. Rows that
the order does not tell apart stay in the order of the table, whatever the direction.
-/

set_option autoImplicit false

namespace Listing

open Listing.Filter Text

/-- Why the database refuses a statement. -/
inductive DatabaseError
  | noSuchTable (entity : String)
  | noSuchColumn (column : String)
  | duplicateKey (entity : String)
  | missingValue (entity column : String)
  | patternTooLong
  | unreadable (sql : String)
deriving Repr, DecidableEq

def DatabaseError.message : DatabaseError → String
  | .noSuchTable entity => "no such table: " ++ entity
  | .noSuchColumn column => "no such column: " ++ column
  | .duplicateKey entity => "UNIQUE constraint failed: " ++ entity
  | .missingValue entity column => "NOT NULL constraint failed: " ++ entity ++ "." ++ column
  | .patternTooLong => "LIKE or GLOB pattern too complex"
  | .unreadable _ => "syntax error"

/-- The order of values of one kind: integers and numbers by size, texts by their UTF-8 bytes. A
column holds values of one kind, so the order of the kinds never shows. -/
def Value.order : Value → Value → Ordering
  | .integer m, .integer n => compare m n
  | .float x, .float y => compare x.place y.place
  | .text s, .text t => Utf8.compareBytes s t
  | .integer _, _ => .lt
  | _, .integer _ => .gt
  | .float _, .text _ => .lt
  | .text _, .float _ => .gt

def Value.sameKind : Value → Value → Bool
  | .integer _, .integer _ | .float _, .float _ | .text _, .text _ => true
  | _, _ => false

variable {α : Type} [Record α]

namespace Condition

/-- Whether a row meets a condition with a bound value: its text is like the pattern, or its number
compares with the bound one as asked. -/
def holds (c : Condition) (bound : Value) (row : α) : Bool :=
  match c with
  | .like column =>
    match bound, Record.cell? row column with
    | .text pattern, some (.text s) => Like.like pattern s
    | _, _ => false
  | .compare column op =>
    match Record.cell? row column with
    | some v => v.sameKind bound && op.holds (v.order bound)
    | none => false

/-- Whether the bound value is a pattern that is longer than allowed. -/
def tooLong : Condition → Value → Bool
  | .like _, .text pattern => Like.maxBytes < pattern.utf8ByteSize
  | _, _ => false

end Condition

/-- How two rows compare in a column, in its direction. -/
def SortKey.compareRows (k : SortKey) (r s : α) : Ordering :=
  match Record.cell? r k.column, Record.cell? s k.column with
  | some v, some w =>
    match k.direction with
    | .asc => v.order w
    | .desc => w.order v
  | _, _ => .eq

namespace Statement

/-- Whether a row meets all conditions. A placeholder without a value is met by no row. -/
def meets : List Condition → List Value → α → Bool
  | [], _, _ => true
  | _ :: _, [], _ => false
  | c :: cs, v :: vs, row => c.holds v row && meets cs vs row

/-- Whether a row may stand in front of another: the first key that tells them apart decides. -/
def inOrder : List SortKey → α → α → Bool
  | [], _, _ => true
  | k :: ks, r, s =>
    match k.compareRows r s with
    | .lt => true
    | .eq => inOrder ks r s
    | .gt => false

/-- Whether one of the bound patterns is too long. -/
def tooLong (st : Statement) (values : List Value) : Bool :=
  (st.conditions.zip values).any fun (c, v) => c.tooLong v

/-- The rows a statement selects from those of its table. A pattern is looked at only if there is a
row to match it with. -/
def select (st : Statement) (values : List Value) (rows : List α) :
    Except DatabaseError (List α) :=
  if !rows.isEmpty && st.tooLong values then .error .patternTooLong
  else .ok ((rows.filter (meets st.conditions values)).mergeSort (inOrder st.orders))

end Statement

/-- The rows a query gives on a table that may be missing. All columns that the query names must be
columns of the table, whether it has rows or not. -/
def Query.fetch (q : Query) (table : Option (List α)) : Except DatabaseError (List α) :=
  match Statement.read? q.sql with
  | none => .error (.unreadable q.sql)
  | some st =>
    match table with
    | none => .error (.noSuchTable st.table)
    | some rows =>
      match st.columns.find? (· ∉ Record.names α) with
      | some column => .error (.noSuchColumn column)
      | none => st.select q.values rows

end Listing
