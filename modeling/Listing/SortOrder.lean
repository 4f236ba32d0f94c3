import Listing.Text.Segments
import Listing.Rejection

/-!
# Sort orders

`field.direction` sorts by one declared scalar field. `SortOrder.compile` reads and checks an
order; the empty text is none.
-/

set_option autoImplicit false

namespace Listing

open Text

inductive Direction
  | asc
  | desc
deriving Repr, DecidableEq

namespace Direction

/-- The word for a direction, in an expression and in a query. -/
def text : Direction → String
  | .asc => "asc"
  | .desc => "desc"

/-- The direction of a word, letter for letter. -/
def ofText? : String → Option Direction
  | "asc" => some .asc
  | "desc" => some .desc
  | _ => none

@[simp] theorem ofText?_text (d : Direction) : ofText? d.text = some d := by cases d <;> rfl

end Direction

/-- A declared field to sort by. -/
structure SortOrder where
  field : Schema.Field
  direction : Direction
deriving Repr, DecidableEq

namespace SortOrder

def fragment (o : SortOrder) : String := o.field.name ++ " " ++ o.direction.text

/-- Reads and checks an order: the number of segments first, then whether one is empty, then the
direction, then the field and its type. -/
def compile (schema : Schema) (input : String) : Except Rejection (Option SortOrder) :=
  if input = "" then .ok none
  else match segments input with
    | [name, word] =>
      if name = "" || word = "" then .error (.emptySegment .sortBy input)
      else match Direction.ofText? word with
        | none => .error (.invalidDirection word)
        | some d =>
          match schema.resolve name with
          | none => .error (.unknownField name schema.entity)
          | some f => if f.type.isScalar then .ok (some ⟨f, d⟩) else .error (.notSortable f.name)
    | _ => .error (.malformed .sortBy input)

end SortOrder

end Listing
