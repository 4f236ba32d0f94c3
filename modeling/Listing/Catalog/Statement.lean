import Listing.SortOrder
import Listing.Filter.Expression

/-!
# Statements

What the database reads in the text of a list query: the table, the condition at each placeholder
and the columns to sort by. `Statement.read?` reads a statement word by word.
-/

set_option autoImplicit false

namespace Listing

open Text Listing.Filter

namespace Filter.Operator

def ofSymbol? : String → Option Operator
  | "<" => some .lt
  | "<=" => some .le
  | ">" => some .gt
  | ">=" => some .ge
  | "==" => some .eq
  | _ => none

@[simp] theorem ofSymbol?_symbol (op : Operator) : ofSymbol? op.symbol = some op := by
  cases op <;> rfl

end Filter.Operator

/-- A condition on a column, to be met with the value bound to its placeholder. -/
inductive Condition
  | like (column : String)
  | compare (column : String) (op : Operator)
deriving Repr, DecidableEq

namespace Condition

/-- The column of a condition. -/
def column : Condition → String
  | .like column => column
  | .compare column _ => column

/-- The condition with a sign on a column. -/
def ofSign? (column : String) : String → Option Condition
  | "LIKE" => some (.like column)
  | sign => (Operator.ofSymbol? sign).map (.compare column)

end Condition

structure SortKey where
  column : String
  direction : Direction
deriving Repr, DecidableEq

/-- A statement that selects rows of a table. -/
structure Statement where
  table : String
  conditions : List Condition
  orders : List SortKey
deriving Repr, DecidableEq

namespace Statement

/-- The columns that a statement names. -/
def columns (st : Statement) : List String :=
  st.conditions.map Condition.column ++ st.orders.map SortKey.column

/-- The words of a text; a comma behind a word is a word of its own. -/
def words (s : String) : List String :=
  (s.toList.splitOn ' ').flatMap fun w =>
    if w.getLast? = some ',' then [String.ofList w.dropLast, ","] else [String.ofList w]

/-- Reads conditions, and gives the words behind them. -/
def readConditions : List String → Option (List Condition × List String)
  | column :: sign :: "?" :: "AND" :: rest => do
    let c ← Condition.ofSign? column sign
    let (cs, rest) ← readConditions rest
    return (c :: cs, rest)
  | column :: sign :: "?" :: rest => do
    let c ← Condition.ofSign? column sign
    return ([c], rest)
  | _ => none

def readKeys : List String → Option (List SortKey)
  | [column, word] => do
    let d ← Direction.ofText? word
    return [⟨column, d⟩]
  | column :: word :: "," :: rest => do
    let d ← Direction.ofText? word
    let ks ← readKeys rest
    return ⟨column, d⟩ :: ks
  | _ => none

/-- Reads what may stand at the end: nothing, or the columns to sort by. -/
def readOrders : List String → Option (List SortKey)
  | [] => some []
  | "ORDER" :: "BY" :: rest => readKeys rest
  | _ => none

/-- Reads what may stand behind the table. -/
def readClauses : List String → Option (List Condition × List SortKey)
  | "WHERE" :: rest => do
    let (cs, rest) ← readConditions rest
    let ks ← readOrders rest
    return (cs, ks)
  | rest => do
    let ks ← readOrders rest
    return ([], ks)

def read? (sql : String) : Option Statement :=
  match words sql with
  | "SELECT" :: "*" :: "FROM" :: table :: rest =>
    (readClauses rest).map fun (cs, ks) => ⟨table, cs, ks⟩
  | _ => none

end Statement

end Listing
