import Listing.Filter.Expression
import Listing.Value

/-!
# Compiled filters

`Expression.compile` checks an expression against a schema and gives a predicate on one declared
field. Of a predicate the query text shows the declared spelling and the form alone
(`Predicate.fragment`); the value given in the request reaches the query only as the bound value.
-/

set_option autoImplicit false

namespace Listing.Filter

/-- What a predicate asks of its field. -/
inductive Test
  | contains
  | compare (op : Operator)
deriving Repr, DecidableEq

/-- A test of a declared field against a value as written. -/
structure Predicate where
  field : Schema.Field
  test : Test
  literal : String
deriving Repr, DecidableEq

namespace Predicate

/-- The condition in the query, with a placeholder for the value. -/
def fragment (p : Predicate) : String :=
  match p.test with
  | .contains => p.field.name ++ " LIKE ?"
  | .compare op => p.field.name ++ " " ++ op.symbol ++ " ?"

/-- The text of the bound value: a pattern with any text around the value, or the value itself. -/
def boundText (p : Predicate) : String :=
  match p.test with
  | .contains => "%" ++ p.literal ++ "%"
  | .compare _ => p.literal

def value (p : Predicate) : Value := .ofText p.field.type p.boundText

end Predicate

/-- Checks an expression against a schema: the field must be declared, its type must fit the form,
and the value must denote one of that type. -/
def Expression.compile (schema : Schema) (e : Expression) : Except Rejection Predicate :=
  match schema.resolve e.field with
  | none => .error (.unknownField e.field schema.entity)
  | some f =>
    match e with
    | .contains _ v =>
      if f.type ≠ .string then .error (.partialMatch f)
      else if f.type.accepts v then .ok ⟨f, .contains, v⟩ else .error (.invalidValue f v)
    | .compare _ op v =>
      if f.type = .string then .error (.comparison f)
      else if f.type.accepts v then .ok ⟨f, .compare op, v⟩ else .error (.invalidValue f v)

/-- Reads and checks a filter; nothing comes of the empty text. -/
def compile (schema : Schema) (input : String) : Except Rejection (Option Predicate) :=
  match Expression.parse input with
  | .error r => .error r
  | .ok none => .ok none
  | .ok (some e) => (e.compile schema).map some

end Listing.Filter
