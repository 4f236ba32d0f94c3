import Listing.Text.Word

/-!
# Schemas

A schema names an entity and declares its fields, each with a type. Names are unique up to ASCII
case: declaring a name again replaces the earlier field where it stands, with the new spelling and
type. `Schema.resolve` looks a name up.
-/

set_option autoImplicit false

namespace Listing

open Text

/-- What a field holds. Only scalar fields, all but `other`, can be filtered and sorted. -/
inductive FieldType
  | string
  | integer
  | float
  | other
deriving Repr, DecidableEq

namespace FieldType

/-- The name of a type in messages. -/
def name : FieldType → String
  | .string => "string"
  | .integer => "integer"
  | .float => "float"
  | .other => "other"

/-- Whether a field of the type holds one value. -/
def isScalar (t : FieldType) : Bool := t != .other

end FieldType

structure Schema.Field where
  name : String
  type : FieldType
deriving Repr, DecidableEq

/-- An entity and its fields in the order in which their names were first declared. -/
structure Schema where
  entity : String
  fields : List Schema.Field
deriving Repr, DecidableEq

namespace Schema

def empty (entity : String) : Schema := ⟨entity, []⟩

/-- Puts a field in the place of the first of the same name, or else last. -/
def place (f : Field) : List Field → List Field
  | [] => [f]
  | g :: gs => if sameWord g.name f.name then f :: gs else g :: place f gs

def declare (s : Schema) (f : Field) : Schema := { s with fields := place f s.fields }

/-- The schema that declares fields one after the other. -/
def ofFields (entity : String) (fields : List Field) : Schema := fields.foldl declare (empty entity)

/-- The field of a name, whatever the case of its letters. -/
def resolve (s : Schema) (name : String) : Option Field :=
  s.fields.find? fun f => sameWord f.name name

def typeOf (s : Schema) (name : String) : Option FieldType := (s.resolve name).map Field.type

/-! ## Looking up what was declared -/

variable {s : Schema} {n m : String} {f : Field}

@[simp] theorem entity_declare (s : Schema) (f : Field) : (s.declare f).entity = s.entity := rfl

/-- A field that is found has the name up to case. -/
theorem sameWord_of_resolve (h : s.resolve n = some f) : sameWord f.name n = true :=
  List.find?_some (p := fun g : Field => sameWord g.name n) h

theorem mem_of_resolve (h : s.resolve n = some f) : f ∈ s.fields := List.mem_of_find?_eq_some h

/-- Names of one case class resolve alike. -/
theorem resolve_congr (h : sameWord n m = true) (s : Schema) : s.resolve n = s.resolve m := by
  unfold resolve; congr 1; funext f; exact sameWord_congr h f.name

theorem typeOf_congr (h : sameWord n m = true) (s : Schema) : s.typeOf n = s.typeOf m := by
  rw [typeOf, typeOf, resolve_congr h]

theorem find?_place (f : Field) (fields : List Field) (n : String) :
    (place f fields).find? (fun g => sameWord g.name n)
      = if sameWord f.name n then some f else fields.find? fun g => sameWord g.name n := by
  induction fields with
  | nil => simp [place, List.find?_cons]; cases sameWord f.name n <;> rfl
  | cons g gs ih =>
    by_cases hg : sameWord g.name f.name = true
    · have : sameWord g.name n = sameWord f.name n := by
        rw [sameWord_comm g.name, sameWord_comm f.name, sameWord_congr hg]
      cases hf : sameWord f.name n <;> simp [place, hg, this, hf]
    · rw [place, if_neg hg, List.find?_cons, ih, List.find?_cons]
      cases hn : sameWord g.name n
      · rfl
      · have : sameWord f.name n = false := by
          cases hf : sameWord f.name n
          · rfl
          · exact absurd (sameWord_trans hn (sameWord_comm f.name n ▸ hf)) hg
        simp [this]

/-- The last declaration of a name is the one found. -/
theorem resolve_declare (s : Schema) (f : Field) (n : String) :
    (s.declare f).resolve n = if sameWord f.name n then some f else s.resolve n :=
  find?_place f s.fields n

end Schema

end Listing
