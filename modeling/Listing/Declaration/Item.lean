import Listing.Declaration.TypeExpr

/-!
# Declared items

A schema can be derived from the declaration of a record: its name, its parameters, its attributes
and its fields. Only attributes with the path `filter` are read; each holds settings, a path with
or without a value. `Fault` is what can be wrong with a declaration.
-/

set_option autoImplicit false

namespace Listing

/-- The value of a setting: a string, or a literal of another kind. -/
inductive SettingValue
  | text (s : String)
  | other
deriving Repr, DecidableEq

/-- A path, and a value if one is given. -/
structure Setting where
  path : String
  value : Option SettingValue
deriving Repr, DecidableEq

/-- An attribute with its settings. -/
structure Attribute where
  path : String
  settings : List Setting
deriving Repr, DecidableEq

structure ItemField where
  name : String
  type : TypeExpr
  attributes : List Attribute

inductive Shape
  | named (fields : List ItemField)
  | positional
  | unit
  | enumeration
  | union

/-- A declared item; the text of its parameters is empty where it has none. -/
structure Item where
  name : String
  parameters : String
  attributes : List Attribute
  shape : Shape

namespace Item

/-- Whether there is anything between the angle brackets of the parameters. -/
def isGeneric (item : Item) : Bool :=
  item.parameters.toList.any fun c => c != '<' && c != '>' && !c.isWhitespace

/-- The settings that are read, from the left. -/
def settings (attributes : List Attribute) : List Setting :=
  attributes.flatMap fun a => if a.path = "filter" then a.settings else []

end Item

inductive Fault
  | generic
  | missingValue
  | notText
  | unexpectedValue
  | unknownItemSetting
  | unnamedFields
  | notRecord
  | unknownFieldSetting
deriving Repr, DecidableEq

def Fault.message : Fault → String
  | .generic => "Filterable cannot be derived for generic structs"
  | .missingValue => "expected \x60=\x60"
  | .notText => "expected string literal"
  | .unexpectedValue => "expected \x60,\x60"
  | .unknownItemSetting => "unsupported filter attribute, expected \x60entity = \"...\"\x60"
  | .unnamedFields => "Filterable requires a struct with named fields"
  | .notRecord => "Filterable can only be derived for structs"
  | .unknownFieldSetting =>
    "unsupported filter attribute, expected \x60skip\x60 or \x60rename = \"...\"\x60"

end Listing
