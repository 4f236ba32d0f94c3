import Listing.Json
import Listing.Value

/-!
# Records

A record is a row of a table: it has a key, a value in each column of the table, and a place among
the rows already there. Its schema may declare fields that have no column.
-/

set_option autoImplicit false

namespace Listing

def Value.toJson : Value → Json
  | .text s => .str s
  | .integer n => .int n
  | .float x => .real x

/-- The rows of a table. -/
class Record (α : Type) where
  schema : Schema
  key : α → Value
  /-- The columns of the table. -/
  names : List String
  columns : α → List (String × Value)
  columns_names : ∀ row, (columns row).map Prod.fst = names
  /-- Whether a row that is inserted goes in front of a row that is there. -/
  before : α → α → Bool

namespace Record

variable {α : Type} [Record α]

/-- What a row holds in a column. -/
def cell? (row : α) (column : String) : Option Value := (columns row).lookup column

/-- A row as a JSON object of its columns. -/
def toJson (row : α) : Json := .obj ((columns row).map fun (k, v) => (k, v.toJson))

end Record

end Listing
