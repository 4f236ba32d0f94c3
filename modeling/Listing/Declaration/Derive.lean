import Listing.Declaration.Item
import Listing.Text.SnakeCase

/-!
# Deriving a schema

`Item.derive` reads the settings of an item and of its fields and gives the entity and the declared
fields, or the first fault: parameters, then the settings of the item, then its form, then the
settings of each field in turn.
-/

set_option autoImplicit false

namespace Listing

open Text

/-- What a declaration gives. -/
structure Derived where
  entity : String
  fields : List Schema.Field
deriving Repr, DecidableEq

/-- The schema that declares the derived fields in order. -/
def Derived.schema (d : Derived) : Schema := .ofFields d.entity d.fields

/-- The text that a setting must be given. -/
def Setting.text (s : Setting) : Except Fault String :=
  match s.value with
  | none => .error .missingValue
  | some (.text t) => .ok t
  | some .other => .error .notText

namespace ItemField

/-- What the settings of a field say: whether it is left out, and the name it is given. -/
structure Marks where
  skip : Bool
  rename : Option String
deriving Repr, DecidableEq

/-- Reads one setting; a later name takes the place of an earlier one. -/
def readSetting (m : Marks) (s : Setting) : Except Fault Marks :=
  if s.path = "skip" then
    if s.value.isSome then .error .unexpectedValue else .ok { m with skip := true }
  else if s.path = "rename" then s.text.map fun t => { m with rename := some t }
  else .error .unknownFieldSetting

def marks (f : ItemField) : Except Fault Marks :=
  (Item.settings f.attributes).foldlM readSetting ⟨false, none⟩

/-- A name without the mark of a raw name. -/
def plainName (name : String) : String :=
  match name.toList with
  | 'r' :: '#' :: cs => String.ofList cs
  | _ => name

/-- The field that is declared for a field of the record, if it is not left out. -/
def declared? (f : ItemField) : Except Fault (Option Schema.Field) :=
  f.marks.map fun m =>
    if m.skip then none else some ⟨m.rename.getD (plainName f.name), f.type.fieldType⟩

end ItemField

namespace Item

/-- Reads one setting of an item; a later entity takes the place of an earlier one. -/
def readSetting (_ : String) (s : Setting) : Except Fault String :=
  if s.path = "entity" then s.text else .error .unknownItemSetting

/-- The entity of an item: the one it is given, or else its name in snake case. -/
def entity (item : Item) : Except Fault String :=
  (settings item.attributes).foldlM readSetting (SnakeCase.snakeCase item.name)

def recordFields (item : Item) : Except Fault (List ItemField) :=
  match item.shape with
  | .named fields => .ok fields
  | .positional | .unit => .error .unnamedFields
  | .enumeration | .union => .error .notRecord

def derive (item : Item) : Except Fault Derived := do
  if item.isGeneric then throw .generic
  let entity ← item.entity
  let fields ← item.recordFields
  let declared ← fields.mapM ItemField.declared?
  return ⟨entity, declared.filterMap id⟩

end Item

end Listing
