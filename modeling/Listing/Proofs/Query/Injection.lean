import Listing.Proofs.Query.Clauses
import Listing.Proofs.Request
import Listing.Proofs.SortOrder

/-!
# Values do not reach the query text

The text of a list query is one of finitely many that the schema alone determines
(`Schema.listTexts`). Two requests that differ in their values only, `Filter.Alike` and
`SortOrder.Alike`, give queries that differ in the bound values only, and so one text.
-/

set_option autoImplicit false

namespace Listing

open Text

/-! ## The texts of a schema -/

/-- The conditions on the fields of a schema. -/
def Schema.conditions (schema : Schema) : List String :=
  schema.fields.flatMap fun d =>
    match d.type with
    | .string => [d.name ++ " LIKE ?"]
    | .integer | .float => ["<", "<=", ">", ">=", "=="].map fun sign =>
        d.name ++ " " ++ sign ++ " ?"
    | .other => []

/-- The orders on the fields of a schema. -/
def Schema.orderings (schema : Schema) : List String :=
  schema.fields.flatMap fun d =>
    match d.type with
    | .other => []
    | _ => [d.name ++ " asc", d.name ++ " desc"]

/-- The query texts of a schema: any condition or none, and any order or none. -/
def Schema.listTexts (schema : Schema) : List String :=
  ("" :: schema.conditions.map fun c => " WHERE " ++ c).flatMap fun condition =>
    ("" :: schema.orderings.map fun o => " ORDER BY " ++ o).map fun ordering =>
      "SELECT * FROM " ++ schema.entity ++ condition ++ ordering

variable {schema : Schema} {x x' : String}

theorem Filter.Predicate.Fits.fragment_mem_conditions {p : Filter.Predicate} (hp : p.Fits)
    (hd : p.field ∈ schema.fields) : p.fragment ∈ schema.conditions := by
  refine List.mem_flatMap.2 ⟨p.field, hd, ?_⟩
  obtain ⟨d, test, literal⟩ := p
  obtain ⟨ht, hl⟩ := hp
  cases test with
  | contains =>
    have ht : d.type = .string := ht.1 rfl
    simp [ht, Predicate.fragment]
  | compare op =>
    have hns : d.type ≠ .string := fun h => by cases ht.2 h
    have hno : d.type ≠ .other := fun h => by simp [h, FieldType.accepts] at hl
    have hop : op.symbol ∈ ["<", "<=", ">", ">=", "=="] := by cases op <;> decide
    have hmem := List.mem_map_of_mem (f := fun sign => d.name ++ " " ++ sign ++ " ?") hop
    cases hty : d.type with
    | string => exact absurd hty hns
    | integer => exact hmem
    | float => exact hmem
    | other => exact absurd hty hno

theorem SortOrder.fragment_mem_orderings {o : SortOrder} (hd : o.field ∈ schema.fields)
    (hscalar : o.field.type.isScalar = true) : o.fragment ∈ schema.orderings := by
  refine List.mem_flatMap.2 ⟨o.field, hd, ?_⟩
  obtain ⟨d, direction⟩ := o
  have hmem : d.name ++ " " ++ direction.text ∈ [d.name ++ " asc", d.name ++ " desc"] := by
    cases direction <;> simp [Direction.text, String.append_assoc]
  cases hty : d.type with
  | other => simp [hty, FieldType.isScalar] at hscalar
  | _ => simpa [hty, fragment] using hmem

theorem Plan.sql_toQuery_eq (plan : Plan) (schema : Schema) :
    (plan.toQuery schema).sql = "SELECT * FROM " ++ schema.entity
      ++ (plan.predicate.map fun p => " WHERE " ++ p.fragment).getD ""
      ++ (plan.order.map fun o => " ORDER BY " ++ o.fragment).getD "" := by
  rw [Plan.toQuery_eq, Query.sql_eq]
  obtain ⟨_ | p, _ | o⟩ := plan <;> simp [Query.clause]

/-- The text of a query that a request compiles to is one of the schema's. -/
theorem sql_mem_listTexts {r : ListRequest} {plan : Plan}
    (h : (ListRequest.compile schema r).2 = .ok plan) :
    (plan.toQuery schema).sql ∈ schema.listTexts := by
  obtain ⟨hp, ho⟩ := ListRequest.compile_eq_ok_iff.1 h
  rw [Plan.sql_toQuery_eq]
  refine List.mem_flatMap.2 ⟨_, ?_, List.mem_map_of_mem ?_⟩
  · cases hpred : plan.predicate with
    | none => exact List.mem_cons_self
    | some p =>
      rw [hpred] at hp
      have hfit := Filter.Predicate.Fits.of_compile hp
      exact List.mem_cons_of_mem _ (List.mem_map_of_mem
        (hfit.fragment_mem_conditions (Filter.mem_fields_of_compile hp)))
  · cases hord : plan.order with
    | none => exact List.mem_cons_self
    | some o =>
      rw [hord] at ho
      obtain ⟨f, -, -, hd, hscalar⟩ := SortOrder.compile_eq_some_iff.1 ho
      exact List.mem_cons_of_mem _ (List.mem_map_of_mem
        (SortOrder.fragment_mem_orderings (Schema.mem_of_resolve hd) hscalar))

/-! ## Requests that differ in values -/

/-- Filters of one form and operator, whose fields are equal up to ASCII case. -/
inductive Filter.Alike (x x' : String) : Prop
  | empty : x = "" → x' = "" → Alike x x'
  | contains {f f' v v' : String} : Cut x [f, v] → Cut x' [f', v'] → sameWord f f' = true →
      Alike x x'
  | compare {f f' o v v' : String} : Cut x [f, o, v] → Cut x' [f', o, v'] → sameWord f f' = true →
      Alike x x'

/-- Orders of one direction, whose fields are equal up to ASCII case. -/
inductive SortOrder.Alike (x x' : String) : Prop
  | empty : x = "" → x' = "" → Alike x x'
  | order {f f' d : String} : Cut x [f, d] → Cut x' [f', d] → sameWord f f' = true → Alike x x'

theorem Filter.exists_of_compile {segs : List String} {p : Option Filter.Predicate}
    (hc : Cut x segs) (hl : 1 < segs.length) (hp : Filter.compile schema x = .ok p) :
    ∃ (e : Filter.Expression) (q : Filter.Predicate), p = some q ∧ segs = e.pieces ∧
      schema.resolve e.field = some q.field ∧ q.test = e.test := by
  cases p with
  | none =>
    obtain rfl := Filter.compile_eq_none_iff.1 hp
    cases hc.unique cut_empty
    simp at hl
  | some q =>
    obtain ⟨e, hparse, hd, htest, -, -⟩ := Filter.compile_eq_some_iff.1 hp
    obtain ⟨rfl, hf, hv⟩ := Filter.parse_eq_some_iff.1 hparse
    exact ⟨e, q, rfl, hc.unique (Filter.cut_render hf.dotFree hv.dotFree), hd, htest⟩

theorem Filter.fragment_eq_of {p p' : Filter.Predicate} {f f' : String} (h : sameWord f f' = true)
    (hd : schema.resolve f = some p.field) (hd' : schema.resolve f' = some p'.field)
    (ht : p.test = p'.test) : p.fragment = p'.fragment := by
  rw [Schema.resolve_congr h, hd'] at hd
  rw [Predicate.fragment, Predicate.fragment, Option.some.inj hd, ht]

/-- Alike filters compile to one condition. -/
theorem Filter.Alike.fragment_eq {p p' : Option Filter.Predicate} (h : Filter.Alike x x')
    (hp : Filter.compile schema x = .ok p) (hp' : Filter.compile schema x' = .ok p') :
    p.map (·.fragment) = p'.map (·.fragment) := by
  cases h with
  | empty hx hx' =>
    rw [hx] at hp
    rw [hx'] at hp'
    cases hp
    cases hp'
    rfl
  | contains hc hc' hf =>
    obtain ⟨e, q, rfl, hsegs, hd, ht⟩ := Filter.exists_of_compile hc (by simp) hp
    obtain ⟨e', q', rfl, hsegs', hd', ht'⟩ := Filter.exists_of_compile hc' (by simp) hp'
    cases e with
    | compare => cases hsegs
    | contains =>
      cases e' with
      | compare => cases hsegs'
      | contains =>
        cases hsegs
        cases hsegs'
        exact congrArg some (Filter.fragment_eq_of hf hd hd' (ht.trans ht'.symm))
  | compare hc hc' hf =>
    obtain ⟨e, q, rfl, hsegs, hd, ht⟩ := Filter.exists_of_compile hc (by simp) hp
    obtain ⟨e', q', rfl, hsegs', hd', ht'⟩ := Filter.exists_of_compile hc' (by simp) hp'
    cases e with
    | contains => cases hsegs
    | compare _ op _ =>
      cases e' with
      | contains => cases hsegs'
      | compare _ op' _ =>
        cases hsegs
        obtain ⟨rfl, htail⟩ := List.cons.inj hsegs'
        -- both texts have one word for the operator
        have hop : op = op' := by
          have := congrArg Filter.Operator.ofToken? (List.cons.inj htail).1
          simpa using this
        have htest : q.test = q'.test := by rw [ht, ht', Filter.Expression.test, hop]; rfl
        exact congrArg some (Filter.fragment_eq_of hf hd hd' htest)

/-- Alike orders compile to one order. -/
theorem SortOrder.Alike.eq {o o' : Option SortOrder} (h : SortOrder.Alike x x')
    (ho : SortOrder.compile schema x = .ok o) (ho' : SortOrder.compile schema x' = .ok o') :
    o = o' := by
  cases h with
  | empty hx hx' =>
    rw [hx] at ho
    rw [hx'] at ho'
    cases ho
    cases ho'
    rfl
  | order hc hc' hf =>
    cases o with
    | none =>
      obtain rfl := SortOrder.compile_eq_none_iff.1 ho
      cases hc.unique cut_empty
    | some o =>
      cases o' with
      | none =>
        obtain rfl := SortOrder.compile_eq_none_iff.1 ho'
        cases hc'.unique cut_empty
      | some o' =>
        obtain ⟨g, hg, -, hd, -⟩ := SortOrder.compile_eq_some_iff.1 ho
        obtain ⟨g', hg', -, hd', -⟩ := SortOrder.compile_eq_some_iff.1 ho'
        obtain ⟨d, direction⟩ := o
        obtain ⟨d', direction'⟩ := o'
        obtain ⟨rfl, htail⟩ := List.cons.inj (hc.unique hg)
        obtain ⟨rfl, htail'⟩ := List.cons.inj (hc'.unique hg')
        have hdirection : direction = direction' := by
          have := congrArg Direction.ofText?
            ((List.cons.inj htail).1.symm.trans (List.cons.inj htail').1)
          simpa using this
        rw [Schema.resolve_congr hf, hd'] at hd
        obtain rfl : d' = d := Option.some.inj hd
        rw [hdirection]

/-- The query texts of a schema are finitely many whatever is asked for, and requests that differ in
their values only give one text, and one query but for the values that are bound. -/
theorem sql_noninterference (schema : Schema) :
    (∀ r plan, (ListRequest.compile schema r).2 = .ok plan →
      (plan.toQuery schema).sql ∈ schema.listTexts) ∧
    ∀ r r' plan plan', (ListRequest.compile schema r).2 = .ok plan →
      (ListRequest.compile schema r').2 = .ok plan' →
      Filter.Alike r.filterBy r'.filterBy → SortOrder.Alike r.sortBy r'.sortBy →
      (plan.toQuery schema).sql = (plan'.toQuery schema).sql ∧
        plan'.toQuery schema
          = { plan.toQuery schema with values := (plan'.toQuery schema).values } ∧
        (plan.toQuery schema).values.length = (plan'.toQuery schema).values.length := by
  refine ⟨fun r plan h => sql_mem_listTexts h, fun r r' plan plan' h h' hfilter hsort => ?_⟩
  obtain ⟨hp, ho⟩ := ListRequest.compile_eq_ok_iff.1 h
  obtain ⟨hp', ho'⟩ := ListRequest.compile_eq_ok_iff.1 h'
  have hfragment := hfilter.fragment_eq hp hp'
  have horder := hsort.eq ho ho'
  have hquery : plan'.toQuery schema
      = { plan.toQuery schema with values := (plan'.toQuery schema).values } := by
    rw [Plan.toQuery_eq, Plan.toQuery_eq, hfragment, horder]
  have hsql : (plan.toQuery schema).sql = (plan'.toQuery schema).sql := by
    rw [hquery]
    rfl
  refine ⟨hsql, hquery, ?_⟩
  have hsome : plan.predicate.isSome = plan'.predicate.isSome := by
    simpa using congrArg Option.isSome hfragment
  simp [Plan.toQuery_eq, Option.length_toList, hsome]

/-- Two searches for other names, spelled in another case. -/
theorem sql_noninterference_search :
    let schema := Schema.ofFields "boardgames" [⟨"name", .string⟩, ⟨"price", .float⟩]
    ∃ plan plan', (ListRequest.compile schema ⟨"name.OR1", "price.desc"⟩).2 = .ok plan ∧
      (ListRequest.compile schema ⟨"NAME.azul", "Price.desc"⟩).2 = .ok plan' ∧ plan ≠ plan' ∧
      (plan.toQuery schema).sql = (plan'.toQuery schema).sql ∧
      plan'.toQuery schema
        = { plan.toQuery schema with values := (plan'.toQuery schema).values } ∧
      (plan.toQuery schema).values.length = (plan'.toQuery schema).values.length :=
  ⟨_, _, rfl, rfl, by decide, (sql_noninterference _).2 ⟨"name.OR1", "price.desc"⟩
    ⟨"NAME.azul", "Price.desc"⟩ _ _ rfl rfl
    (.contains (cut_two_iff (f := "name") (v := "OR1").2 (by decide))
      (cut_two_iff (f := "NAME") (v := "azul").2 (by decide)) (by decide))
    (.order (cut_two_iff (f := "price") (v := "desc").2 (by decide))
      (cut_two_iff (f := "Price") (v := "desc").2 (by decide)) (by decide))⟩

end Listing
