import Listing.Proofs.Catalog.Statement
import Listing.Proofs.Filter.Predicate
import Listing.Proofs.SortOrder
import Listing.Request

/-!
# Clauses as statements

The condition that a predicate puts into a query, and the column that an order does. A query whose
clauses are those of a statement has the text of the statement (`sql_eq_render`).
-/

set_option autoImplicit false

namespace Listing

def Filter.Predicate.condition (p : Filter.Predicate) : Condition :=
  match p.test with
  | .contains => .like p.field.name
  | .compare op => .compare p.field.name op

def SortOrder.key (o : SortOrder) : SortKey := ⟨o.field.name, o.direction⟩

@[simp] theorem Filter.Predicate.render_condition (p : Filter.Predicate) :
    p.condition.render = p.fragment := by
  obtain ⟨d, test, literal⟩ := p
  cases test <;>
    simp [condition, fragment, Condition.render, Condition.column, Condition.sign,
      String.append_assoc]

@[simp] theorem Filter.Predicate.column_condition (p : Filter.Predicate) :
    p.condition.column = p.field.name := by
  obtain ⟨d, test, literal⟩ := p
  cases test <;> rfl

@[simp] theorem SortOrder.render_key (o : SortOrder) : o.key.render = o.fragment := rfl

section
variable {schema : Schema} {x : String}

theorem Filter.plain_of_compile {p : Filter.Predicate} (hnames : ∀ d ∈ schema.fields, Plain d.name)
    (h : Filter.compile schema x = .ok (some p)) : Plain p.condition.column := by
  rw [Predicate.column_condition]
  exact hnames _ (mem_fields_of_compile h)

theorem SortOrder.plain_of_compile {o : SortOrder} (hnames : ∀ d ∈ schema.fields, Plain d.name)
    (h : SortOrder.compile schema x = .ok (some o)) : Plain o.key.column := by
  obtain ⟨f, -, -, hd, -⟩ := compile_eq_some_iff.1 h
  exact hnames _ (Schema.mem_of_resolve hd)

end

namespace Query

theorem clause_eq_phrase (keyword separator : String) (parts : List String) :
    clause keyword separator parts = phrase keyword separator parts := by
  cases parts with
  | nil => rfl
  | cons p parts => rw [clause, if_neg (by simp), phrase]

theorem sql_eq_render {q : Query} {st : Statement} (htable : q.entity = st.table)
    (hconditions : q.conditions = st.conditions.map Condition.render)
    (horders : q.orders = st.orders.map SortKey.render) : q.sql = st.render := by
  rw [sql_eq, clause_eq_phrase, clause_eq_phrase, htable, hconditions, horders,
    Statement.render_eq]

end Query

namespace Plan

/-- The query of a plan, clause by clause. -/
theorem toQuery_eq (plan : Plan) (schema : Schema) : plan.toQuery schema =
    { entity := schema.entity
      conditions := (plan.predicate.map (·.fragment)).toList
      values := (plan.predicate.map (·.value)).toList
      orders := (plan.order.map (·.fragment)).toList } := by
  obtain ⟨_ | p, _ | o⟩ := plan <;> rfl

/-- What a plan asks of the database. -/
def statement (plan : Plan) (schema : Schema) : Statement :=
  { table := schema.entity
    conditions := (plan.predicate.map (·.condition)).toList
    orders := (plan.order.map (·.key)).toList }

theorem sql_toQuery (plan : Plan) (schema : Schema) :
    (plan.toQuery schema).sql = (plan.statement schema).render := by
  rw [toQuery_eq]
  apply Query.sql_eq_render rfl
  · cases h : plan.predicate <;> simp [statement, h]
  · cases h : plan.order <;> simp [statement, h]

end Plan

end Listing
