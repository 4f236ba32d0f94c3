import Listing.Text.Segments
import Listing.Rejection

/-!
# Filter expressions

`field.value` asks for a text that contains the value, `field.operator.value` for a number that
compares with it. `Expression.parse` reads an expression, `Expression.render` writes it; the empty
text is no filter.
-/

set_option autoImplicit false

namespace Listing.Filter

open Text

inductive Operator
  | lt
  | le
  | gt
  | ge
  | eq
deriving Repr, DecidableEq

namespace Operator

/-- The word for an operator in an expression. -/
def token : Operator → String
  | .lt => "lt"
  | .le => "le"
  | .gt => "gt"
  | .ge => "ge"
  | .eq => "eq"

/-- The sign for an operator in a query. -/
def symbol : Operator → String
  | .lt => "<"
  | .le => "<="
  | .gt => ">"
  | .ge => ">="
  | .eq => "=="

/-- The operator of a word, letter for letter. -/
def ofToken? : String → Option Operator
  | "lt" => some .lt
  | "le" => some .le
  | "gt" => some .gt
  | "ge" => some .ge
  | "eq" => some .eq
  | _ => none

@[simp] theorem ofToken?_token (op : Operator) : ofToken? op.token = some op := by
  cases op <;> rfl

/-- Whether an operator holds between two things that compare so. -/
def holds : Operator → Ordering → Bool
  | .lt, o => o == .lt
  | .le, o => o != .gt
  | .gt, o => o == .gt
  | .ge, o => o != .lt
  | .eq, o => o == .eq

end Operator

/-- A filter as written. -/
inductive Expression
  | contains (field value : String)
  | compare (field : String) (op : Operator) (value : String)
deriving Repr, DecidableEq

namespace Expression

def field : Expression → String
  | .contains f _ => f
  | .compare f _ _ => f

def value : Expression → String
  | .contains _ v => v
  | .compare _ _ v => v

/-- The text of an expression. -/
def render : Expression → String
  | .contains f v => join [f, v]
  | .compare f op v => join [f, op.token, v]

/-- Reads an expression, nothing from the empty text. The number of segments is looked at first,
then whether one is empty, then the operator. -/
def parse (input : String) : Except Rejection (Option Expression) :=
  if input = "" then .ok none
  else match segments input with
    | [f, v] =>
      if f = "" || v = "" then .error (.emptySegment .filterBy input)
      else .ok (some (.contains f v))
    | [f, o, v] =>
      if f = "" || o = "" || v = "" then .error (.emptySegment .filterBy input)
      else match Operator.ofToken? o with
        | some op => .ok (some (.compare f op v))
        | none => .error (.unknownOperator o)
    | _ => .error (.malformed .filterBy input)

end Expression

end Listing.Filter
