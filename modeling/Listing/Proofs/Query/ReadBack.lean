import Listing.Proofs.Literal
import Listing.Proofs.Query.Clauses
import Listing.Proofs.SortOrder

/-!
# Queries are read back

Whatever steps a query is built by, its clauses and its values are those of the accepted steps, in
their order (`run_eq`). The text of the query is read in one way only, as these clauses, and each
placeholder stands for the value of its clause (`run_aligned`).
-/

set_option autoImplicit false

namespace Listing

open Number

/-! ## Steps -/

namespace Query.Step

/-- The schema a step is compiled against. -/
def schema : Step → Schema
  | .filter s _ | .order s _ => s

def input : Step → String
  | .filter _ x | .order _ x => x

/-- The predicate of an accepted filter step. -/
def predicate? : Step → Option Filter.Predicate
  | .filter s x => (Filter.compile s x).toOption.join
  | .order _ _ => none

/-- The order of an accepted order step. -/
def sortOrder? : Step → Option SortOrder
  | .filter _ _ => none
  | .order s x => (SortOrder.compile s x).toOption.join

variable {st : Step}

theorem predicate?_eq_some_iff {p : Filter.Predicate} :
    st.predicate? = some p ↔ ∃ s x, st = .filter s x ∧ Filter.compile s x = .ok (some p) := by
  cases st with
  | filter s x => cases h : Filter.compile s x <;> simp [predicate?, h, Except.toOption]
  | order s x => simp [predicate?]

theorem sortOrder?_eq_some_iff {o : SortOrder} :
    st.sortOrder? = some o ↔ ∃ s x, st = .order s x ∧ SortOrder.compile s x = .ok (some o) := by
  cases st with
  | filter s x => simp [sortOrder?]
  | order s x => cases h : SortOrder.compile s x <;> simp [sortOrder?, h, Except.toOption]

end Query.Step

namespace Query

variable {q : Query} {st : Step} {steps : List Step}

/-- A step adds what it compiles to, and nothing if it is refused. -/
theorem after_eq (q : Query) (st : Step) :
    q.after st = (q.filter st.predicate?).order st.sortOrder? := by
  cases st with
  | filter s x =>
    cases h : Filter.compile s x <;>
      simp [after, step, h, Step.predicate?, Step.sortOrder?, Except.map, Except.toOption]
  | order s x =>
    cases h : SortOrder.compile s x <;>
      simp [after, step, h, Step.predicate?, Step.sortOrder?, Except.map, Except.toOption]

/-- A step without an expression, or with one that is refused, leaves the query as it was. -/
theorem after_eq_self (h : st.input = "" ∨ ∃ r, q.step st = .error r) : q.after st = q := by
  rcases h with hx | ⟨r, hr⟩
  · cases st with
    | filter s x =>
      obtain rfl : x = "" := hx
      rfl
    | order s x =>
      obtain rfl : x = "" := hx
      rfl
  · simp [after, hr, Except.toOption]

/-- A query after a run of steps: the clauses and the values of the accepted steps are added, each
in the order of the steps. -/
theorem run_eq (q : Query) (steps : List Step) : q.run steps =
    { entity := q.entity
      conditions := q.conditions ++ (steps.filterMap Step.predicate?).map (·.fragment)
      values := q.values ++ (steps.filterMap Step.predicate?).map (·.value)
      orders := q.orders ++ (steps.filterMap Step.sortOrder?).map (·.fragment) } := by
  -- the steps before may have left any clauses, so the query is generalised
  induction steps generalizing q with
  | nil => simp [run]
  | cons st steps ih =>
    have hstep : q.run (st :: steps) = (q.after st).run steps := rfl
    rw [hstep, ih, after_eq]
    cases hp : st.predicate? <;> cases ho : st.sortOrder? <;> simp [filter, order, hp, ho]

end Query

/-! ## Values -/

/-- The values that may be bound for a predicate: the number its literal denotes, as the type of the
field has it, or the pattern around it. -/
inductive Filter.Predicate.Binds (p : Filter.Predicate) : Value → Prop
  | integer {n : Int} : p.field.type = .integer → FieldType.integer.Denotes p.literal (.integer n) →
      p.Binds (.integer n)
  | float {x : Binary64} : p.field.type = .float → x.isFinite = true →
      FieldType.float.Denotes p.literal (.float x) → p.Binds (.float x)
  | text : p.field.type = .string → p.Binds (.text ("%" ++ p.literal ++ "%"))

theorem Filter.Predicate.Fits.binds {p : Filter.Predicate} (h : p.Fits) : p.Binds p.value := by
  obtain ⟨⟨name, type⟩, test, literal⟩ := p
  obtain ⟨ht, hl⟩ := h
  cases type with
  | string =>
    obtain rfl : test = .contains := ht.2 rfl
    exact .text rfl
  | integer =>
    cases test with
    | contains => cases ht.1 rfl
    | compare op =>
      obtain ⟨n, -, hn⟩ := Value.ofText_integer hl
      have hd : FieldType.integer.Denotes literal (.integer n) :=
        denotes_iff.2 ⟨.inl rfl, hl, hn⟩
      have hvalue : Filter.Predicate.value ⟨⟨name, .integer⟩, .compare op, literal⟩ = .integer n :=
        hn
      rw [hvalue]
      exact .integer rfl hd
  | float =>
    cases test with
    | contains => cases ht.1 rfl
    | compare op =>
      obtain ⟨x, -, hfin, hx⟩ := Value.ofText_float hl
      have hd : FieldType.float.Denotes literal (.float x) := denotes_iff.2 ⟨.inr rfl, hl, hx⟩
      have hvalue : Filter.Predicate.value ⟨⟨name, .float⟩, .compare op, literal⟩ = .float x := hx
      rw [hvalue]
      exact .float rfl hfin hd
  | other => cases hl

/-! ## Readings -/

/-- A way to read the text of a list query. -/
structure Reading where
  entity : String
  conditions : List String
  orders : List String

namespace Reading

/-- A plain name, a sign and a placeholder. -/
def IsCondition (c : String) : Prop :=
  ∃ name sign, Plain name ∧ sign ∈ ["LIKE", "<", "<=", ">", ">=", "=="] ∧
    c = name ++ " " ++ sign ++ " ?"

/-- A plain name and a direction. -/
def IsOrder (o : String) : Prop :=
  ∃ name word, Plain name ∧ word ∈ ["asc", "desc"] ∧ o = name ++ " " ++ word

/-- The parts of a reading are a name, conditions and orders. -/
structure WellFormed (r : Reading) : Prop where
  entity : Plain r.entity
  conditions : ∀ c ∈ r.conditions, IsCondition c
  orders : ∀ o ∈ r.orders, IsOrder o

def text (r : Reading) : String :=
  "SELECT * FROM " ++ r.entity ++ phrase " WHERE " " AND " r.conditions
    ++ phrase " ORDER BY " ", " r.orders

def ofStatement (st : Statement) : Reading :=
  ⟨st.table, st.conditions.map Condition.render, st.orders.map SortKey.render⟩

variable {r : Reading} {st : Statement}

@[simp] theorem text_ofStatement (st : Statement) : (ofStatement st).text = st.render := rfl

theorem mem_signs_iff (name : String) {sign : String} :
    sign ∈ ["LIKE", "<", "<=", ">", ">=", "=="] ↔
      ∃ c : Condition, c.column = name ∧ c.sign = sign := by
  refine ⟨fun h => ?_, ?_⟩
  · simp only [List.mem_cons, List.not_mem_nil, or_false] at h
    rcases h with rfl | rfl | rfl | rfl | rfl | rfl
    exacts [⟨.like name, rfl, rfl⟩, ⟨.compare name .lt, rfl, rfl⟩, ⟨.compare name .le, rfl, rfl⟩,
      ⟨.compare name .gt, rfl, rfl⟩, ⟨.compare name .ge, rfl, rfl⟩, ⟨.compare name .eq, rfl, rfl⟩]
  · intro h
    obtain ⟨c, -, rfl⟩ := h
    cases c with
    | like column => simp [Condition.sign]
    | compare column op => cases op <;> simp [Condition.sign, Filter.Operator.symbol]

theorem isCondition_iff {c : String} :
    IsCondition c ↔ ∃ d : Condition, Plain d.column ∧ c = d.render := by
  constructor
  · intro h
    obtain ⟨name, sign, hname, hsign, rfl⟩ := h
    obtain ⟨d, rfl, rfl⟩ := (mem_signs_iff name).1 hsign
    exact ⟨d, hname, by simp [Condition.render, String.append_assoc]⟩
  · intro h
    obtain ⟨d, hd, rfl⟩ := h
    exact ⟨d.column, d.sign, hd, (mem_signs_iff _).2 ⟨d, rfl, rfl⟩,
      by simp [Condition.render, String.append_assoc]⟩

theorem isOrder_iff {o : String} : IsOrder o ↔ ∃ k : SortKey, Plain k.column ∧ o = k.render := by
  constructor
  · intro h
    obtain ⟨name, word, hname, hword, rfl⟩ := h
    simp only [List.mem_cons, List.not_mem_nil, or_false] at hword
    rcases hword with rfl | rfl
    · exact ⟨⟨name, .asc⟩, hname, rfl⟩
    · exact ⟨⟨name, .desc⟩, hname, rfl⟩
  · intro h
    obtain ⟨⟨name, direction⟩, hname, rfl⟩ := h
    refine ⟨name, direction.text, hname, ?_, rfl⟩
    cases direction <;> simp [Direction.text]

theorem exists_map_eq {α β : Type} {f : α → β} {P : α → Prop} {l : List β}
    (h : ∀ b ∈ l, ∃ a, P a ∧ b = f a) : ∃ as : List α, (∀ a ∈ as, P a) ∧ l = as.map f := by
  induction l with
  | nil => exact ⟨[], by simp, rfl⟩
  | cons b l ih =>
    obtain ⟨a, ha, rfl⟩ := h b (by simp)
    obtain ⟨as, has, rfl⟩ := ih fun b hb => h b (List.mem_cons_of_mem _ hb)
    exact ⟨a :: as, by simpa using ⟨ha, has⟩, rfl⟩

/-- The well-formed readings are those of statements with plain names. -/
theorem wellFormed_iff : r.WellFormed ↔ ∃ st : Statement, st.IsPlain ∧ r = ofStatement st := by
  constructor
  · intro h
    obtain ⟨hentity, hconditions, horders⟩ := h
    obtain ⟨cs, hcs, hc⟩ := exists_map_eq fun c hc => isCondition_iff.1 (hconditions c hc)
    obtain ⟨ks, hks, hk⟩ := exists_map_eq fun o ho => isOrder_iff.1 (horders o ho)
    obtain ⟨entity, conditions, orders⟩ := r
    obtain rfl : conditions = cs.map Condition.render := hc
    obtain rfl : orders = ks.map SortKey.render := hk
    exact ⟨⟨entity, cs, ks⟩, ⟨hentity, hcs, hks⟩, rfl⟩
  · intro h
    obtain ⟨st, h, rfl⟩ := h
    refine ⟨h.table, fun c hc => ?_, fun o ho => ?_⟩
    · obtain ⟨d, hd, rfl⟩ := List.mem_map.1 hc
      exact isCondition_iff.2 ⟨d, h.conditions d hd, rfl⟩
    · obtain ⟨k, hk, rfl⟩ := List.mem_map.1 ho
      exact isOrder_iff.2 ⟨k, h.orders k hk, rfl⟩

/-- The text of a statement with plain names has its reading only. -/
theorem wellFormed_and_text_iff (h : st.IsPlain) :
    r.WellFormed ∧ r.text = st.render ↔ r = ofStatement st := by
  constructor
  · intro h
    obtain ⟨hr, htext⟩ := h
    obtain ⟨st', h', rfl⟩ := wellFormed_iff.1 hr
    rw [Statement.render_injective h' h (by simpa using htext)]
  · intro h
    subst h
    exact ⟨wellFormed_iff.2 ⟨st, h, rfl⟩, text_ofStatement st⟩

end Reading

/-! ## The query of a run -/

namespace Query

variable {schema : Schema} {steps : List Step}

/-- What a run of steps asks of the database. -/
def statement (schema : Schema) (steps : List Step) : Statement :=
  { table := schema.entity
    conditions := (steps.filterMap Step.predicate?).map (·.condition)
    orders := (steps.filterMap Step.sortOrder?).map (·.key) }

theorem sql_run (schema : Schema) (steps : List Step) :
    ((all schema).run steps).sql = (statement schema steps).render := by
  rw [run_eq]
  exact sql_eq_render rfl (by simp [statement, all, Function.comp_def])
    (by simp [statement, all, Function.comp_def])

theorem isPlain_statement (hentity : Plain schema.entity)
    (hnames : ∀ st ∈ steps, ∀ d ∈ st.schema.fields, Plain d.name) :
    (statement schema steps).IsPlain := by
  refine ⟨hentity, fun c hc => ?_, fun k hk => ?_⟩
  · obtain ⟨p, hp, rfl⟩ := List.mem_map.1 hc
    obtain ⟨st, hst, hp⟩ := List.mem_filterMap.1 hp
    obtain ⟨s, x, rfl, hcompile⟩ := Step.predicate?_eq_some_iff.1 hp
    exact Filter.plain_of_compile (hnames _ hst) hcompile
  · obtain ⟨o, ho, rfl⟩ := List.mem_map.1 hk
    obtain ⟨st, hst, ho⟩ := List.mem_filterMap.1 ho
    obtain ⟨s, x, rfl, hcompile⟩ := Step.sortOrder?_eq_some_iff.1 ho
    exact SortOrder.plain_of_compile (hnames _ hst) hcompile

/-- Over any run of steps the placeholders and the values stay aligned, and the text of the query
tells the accepted steps in their order. -/
theorem run_aligned (schema : Schema) (steps : List Step) (hentity : Plain schema.entity)
    (hnames : ∀ st ∈ steps, ∀ d ∈ st.schema.fields, Plain d.name) :
    let q := (all schema).run steps
    let filters := steps.filterMap Step.predicate?
    let orders := steps.filterMap Step.sortOrder?
    (∀ (q' : Query) (st : Step), (st.input = "" ∨ ∃ r, q'.step st = .error r) →
      q'.after st = q') ∧
    q.sql.toList.count '?' = q.values.length ∧
    (∀ r : Reading, r.WellFormed ∧ r.text = q.sql ↔
      r = ⟨schema.entity, filters.map (·.fragment), orders.map (·.fragment)⟩) ∧
    List.Forall₂ Filter.Predicate.Binds filters q.values ∧
    ∀ steps', steps'.filterMap Step.predicate? = filters →
      steps'.filterMap Step.sortOrder? = orders → (all schema).run steps' = q := by
  have hplain := isPlain_statement hentity hnames
  refine ⟨fun q' st => after_eq_self, ?_, fun r => ?_, ?_, fun steps' hfilters horders => ?_⟩
  · rw [sql_run, Statement.count_render hplain, run_eq]
    simp [statement, all]
  · rw [sql_run, Reading.wellFormed_and_text_iff hplain]
    simp [Reading.ofStatement, statement, Function.comp_def]
  · rw [run_eq]
    simp only [all, List.nil_append, List.forall₂_map_right_iff, List.forall₂_same]
    intro p hp
    obtain ⟨st, -, hp⟩ := List.mem_filterMap.1 hp
    obtain ⟨s, x, -, hcompile⟩ := Step.predicate?_eq_some_iff.1 hp
    exact (Filter.Predicate.Fits.of_compile hcompile).binds
  · rw [run_eq, run_eq, hfilters, horders]

/-- A run with two filters, an order, a refused filter and an empty one. -/
theorem run_aligned_search :
    let schema := Schema.ofFields "games" [⟨"name", .string⟩, ⟨"seats", .integer⟩]
    let steps := [Step.filter schema "name.dice", .order schema "seats.desc", .filter schema "name",
      .filter schema "", .filter schema "SEATS.gt.2"]
    let q := (all schema).run steps
    q.sql.toList.count '?' = q.values.length ∧
    ∀ r : Reading, r.WellFormed ∧ r.text = q.sql ↔
      r = ⟨"games", ["name LIKE ?", "seats > ?"], ["seats desc"]⟩ := by
  intro schema steps q
  have h := run_aligned schema steps (by decide) (by decide)
  have hfilters : (steps.filterMap Step.predicate?).map (·.fragment)
      = ["name LIKE ?", "seats > ?"] := by decide
  have horders : (steps.filterMap Step.sortOrder?).map (·.fragment) = ["seats desc"] := by decide
  refine ⟨h.2.1, fun r => ?_⟩
  rw [← hfilters, ← horders]
  exact h.2.2.1 r

end Query

end Listing
