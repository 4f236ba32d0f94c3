import Listing.Filter.Predicate
import Listing.SortOrder

/-!
# Parameterised queries

A query lists an entity under conditions and orders. It is built clause by clause: a condition comes
with the value for its placeholder, an order without one. `Query.sql` is the text of a query.
`Query.Step` adds a condition or an order that is still to be compiled.
-/

set_option autoImplicit false

namespace Listing

open Listing.Filter

/-- A list query: the clauses as text, and the values bound to the placeholders. -/
structure Query where
  entity : String
  conditions : List String
  values : List Value
  orders : List String
deriving DecidableEq

namespace Query

/-- The query for all of an entity. -/
def all (schema : Schema) : Query := ⟨schema.entity, [], [], []⟩

/-- One more condition and its value, if there is one. -/
def filter (q : Query) : Option Predicate → Query
  | none => q
  | some p => { q with conditions := q.conditions ++ [p.fragment], values := q.values ++ [p.value] }

def order (q : Query) : Option SortOrder → Query
  | none => q
  | some o => { q with orders := q.orders ++ [o.fragment] }

/-- A clause: its keyword and its parts with a separator between them, nothing if it has none. -/
def clause (keyword separator : String) (parts : List String) : String :=
  if parts = [] then "" else keyword ++ separator.intercalate parts

def sql (q : Query) : String :=
  "SELECT * FROM " ++ q.entity ++ clause " WHERE " " AND " q.conditions
    ++ clause " ORDER BY " ", " q.orders

theorem sql_eq (q : Query) : q.sql =
    "SELECT * FROM " ++ q.entity ++ clause " WHERE " " AND " q.conditions
      ++ clause " ORDER BY " ", " q.orders := rfl

/-- An expression to be compiled against a schema and added to a query. -/
inductive Step
  | filter (schema : Schema) (input : String)
  | order (schema : Schema) (input : String)

/-- Takes a step; the query stays as it was if the expression is refused. -/
def step (q : Query) : Step → Except Rejection Query
  | .filter schema input => (Filter.compile schema input).map q.filter
  | .order schema input => (SortOrder.compile schema input).map q.order

/-- The query after a step, refused or not. -/
def after (q : Query) (s : Step) : Query := (q.step s).toOption.getD q

/-- The query after a run of steps. -/
def run (q : Query) (steps : List Step) : Query := steps.foldl after q

@[simp] theorem filter_none (q : Query) : q.filter none = q := rfl

@[simp] theorem order_none (q : Query) : q.order none = q := rfl

end Query

end Listing
