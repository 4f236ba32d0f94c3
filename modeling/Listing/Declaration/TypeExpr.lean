import Listing.Schema

/-!
# Types in declarations

The type of a declared field is written as an expression. `TypeExpr.fieldType` says what such a
field holds: references, groups, options and boxes are looked into, texts, integers and floats are
known by the last name of a path, and everything else is a type of another kind. A path may have
arguments in angle brackets, or in parentheses (`call`); only the former are looked into.
-/

set_option autoImplicit false

namespace Listing

mutual
inductive TypeExpr
  | path (segments : List String) (arguments : List TypeArg)
  | call (segments : List String) (inputs : List TypeExpr) (result : Option TypeExpr)
  | reference (inner : TypeExpr)
  | group (inner : TypeExpr)
  | pointer (inner : TypeExpr)
  | paren (inner : TypeExpr)
  | tuple (parts : List TypeExpr)
  | array (inner : TypeExpr)
  | slice (inner : TypeExpr)
  | function (result : TypeExpr)
  | dynamic (inner : TypeExpr)
  | never
  | inferred
  /-- A type of any other form, such as a bound or one that is computed, as its text. -/
  | unread (text : String)

/-- An argument in angle brackets behind a path. -/
inductive TypeArg
  | type (t : TypeExpr)
  | lifetime (name : String)
  | constant (text : String)
  | assoc (name : String) (t : TypeExpr)
  | assocConstant (name text : String)
  | bound (name text : String)
end

deriving instance Inhabited for TypeExpr

namespace TypeExpr

def integerNames : List String :=
  ["i8", "i16", "i32", "i64", "i128", "isize", "u8", "u16", "u32", "u64", "u128", "usize"]

/-- What the last name of a path stands for by itself. -/
def scalar? (name : String) : Option FieldType :=
  if name = "String" || name = "str" then some .string
  else if integerNames.contains name then some .integer
  else if name = "f32" || name = "f64" then some .float
  else none

/-- The names of the types that are looked into. -/
def isWrapper (name : String) : Bool := name = "Option" || name = "Box"

def lastName (segments : List String) : String := segments.getLast?.getD ""

mutual
/-- What a field of a type holds. -/
def fieldType : TypeExpr → FieldType
  | .reference t | .group t => fieldType t
  | .path segments arguments =>
    match scalar? (lastName segments) with
    | some t => t
    | none => if isWrapper (lastName segments) then firstType arguments else .other
  | .call segments _ _ => (scalar? (lastName segments)).getD .other
  | .pointer _ | .paren _ | .tuple _ | .array _ | .slice _ | .function _ | .dynamic _ | .never
  | .inferred | .unread _ => .other

/-- What the first argument that is a type holds. -/
def firstType : List TypeArg → FieldType
  | [] => .other
  | .type t :: _ => fieldType t
  | .lifetime _ :: rest | .constant _ :: rest | .assoc _ _ :: rest | .assocConstant _ _ :: rest
  | .bound _ _ :: rest => firstType rest
end

/-- The names of a path, cut at each `::` outside angle brackets; `name` is what has been read of
the present one, last character first. -/
def cutPath (depth : Nat) (name : List Char) : List Char → List String
  | [] => [String.ofList name.reverse]
  | ':' :: ':' :: cs =>
    if depth = 0 then String.ofList name.reverse :: cutPath 0 [] cs
    else cutPath depth (':' :: ':' :: name) cs
  | '<' :: cs => cutPath (depth + 1) ('<' :: name) cs
  | '>' :: cs => cutPath (depth - 1) ('>' :: name) cs
  | c :: cs => cutPath depth (c :: name) cs

/-- A path, or one of the types written with signs alone, and its arguments. -/
def ofText (text : String) (arguments : List TypeArg) : TypeExpr :=
  match text with
  | "()" => .tuple []
  | "!" => .never
  | "_" => .inferred
  | text => .path (cutPath 0 [] text.toList) arguments

end TypeExpr

end Listing
