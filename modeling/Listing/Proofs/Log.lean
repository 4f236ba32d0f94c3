import Listing.Catalog.Rows
import Listing.Proofs.Query.Clauses

/-!
# What a list request logs

The log of a request says what became of it. `CompileLog` says so of compiling: at most one event
for the filter, one for the order and one warning, in this order and each just if there is something
to say, the warning telling the rejection that is the result. `ListLog` says that a list adds one
event, that of its query, just if the request compiles. `log_says_outcome` holds for every schema,
every table and every pair of texts.
-/

set_option autoImplicit false

namespace Listing

/-! ## Events -/

namespace Event

/-- The event reports the fragment that a text compiled to. -/
structure Reports (e : Event) (message fragment : String) : Prop where
  level : e.level = .debug
  message : e.message = message
  fragment : e.fields.lookup "fragment" = some (.text fragment)

/-- The event warns of a rejection. -/
structure Warns (e : Event) (message : String) (cause : Rejection) : Prop where
  level : e.level = .warn
  message : e.message = message
  kind : e.fields.lookup "kind" = some (.text cause.kind)
  error : e.fields.lookup "error" = some (.text cause.message)

/-- The event tells the text of a query and how many values are bound in it. -/
structure Executes (e : Event) (q : Query) : Prop where
  level : e.level = .debug
  message : e.message = "Executing list query"
  sql : e.fields.lookup "sql" = some (.text q.sql)
  binds : e.fields.lookup "binds" = some (.count q.values.length)

theorem reports_filtering (entity input fragment : String) :
    (filtering entity input fragment).Reports "Filtering" fragment :=
  ⟨rfl, rfl, rfl⟩

theorem reports_sorting (entity input fragment : String) :
    (sorting entity input fragment).Reports "Sorting" fragment :=
  ⟨rfl, rfl, rfl⟩

theorem warns_rejectedFilter (entity input : String) (cause : Rejection) :
    (rejectedFilter entity input cause).Warns "Rejected filter" cause :=
  ⟨rfl, rfl, rfl, rfl⟩

theorem warns_rejectedSort (entity input : String) (cause : Rejection) :
    (rejectedSort entity input cause).Warns "Rejected sort" cause :=
  ⟨rfl, rfl, rfl, rfl⟩

theorem executes_executing (q : Query) : (executing q.sql q.values.length).Executes q :=
  ⟨rfl, rfl, rfl, rfl⟩

end Event

/-! ## Logs -/

/-- The parts of the log of compiling a request: the event of a filter that is accepted, that of an
order that is reached and accepted, and the warning of a request that is refused. -/
structure LogParts (schema : Schema) (r : ListRequest) (filtering sorting warning : Option Event) :
    Prop where
  filtering_iff : filtering.isSome ↔ ∃ p, Filter.compile schema r.filterBy = .ok (some p)
  filtering : ∀ e p, filtering = some e → Filter.compile schema r.filterBy = .ok (some p) →
    e.Reports "Filtering" p.fragment
  sorting_iff : sorting.isSome ↔ (∃ found, Filter.compile schema r.filterBy = .ok found) ∧
    ∃ o, SortOrder.compile schema r.sortBy = .ok (some o)
  sorting : ∀ e o, sorting = some e → SortOrder.compile schema r.sortBy = .ok (some o) →
    e.Reports "Sorting" o.fragment
  warning_iff : warning.isSome ↔ ∃ cause, (r.compile schema).2 = .error cause
  filter_refused : ∀ e cause, warning = some e → Filter.compile schema r.filterBy = .error cause →
    e.Warns "Rejected filter" cause
  order_refused : ∀ e found cause, warning = some e → Filter.compile schema r.filterBy = .ok found →
    SortOrder.compile schema r.sortBy = .error cause → e.Warns "Rejected sort" cause

/-- The result and the log of compiling a request: the first of the two rejections or both results,
and the parts of the log one after the other. -/
structure CompileLog (schema : Schema) (r : ListRequest) (events : List Event)
    (result : Except Rejection Plan) : Prop where
  filter_refused : ∀ cause, Filter.compile schema r.filterBy = .error cause → result = .error cause
  order_refused : ∀ found cause, Filter.compile schema r.filterBy = .ok found →
    SortOrder.compile schema r.sortBy = .error cause → result = .error cause
  accepted : ∀ predicate order, Filter.compile schema r.filterBy = .ok predicate →
    SortOrder.compile schema r.sortBy = .ok order → result = .ok ⟨predicate, order⟩
  warned_iff : events.countP (·.level = .warn) = 1 ↔ ∃ cause, result = .error cause
  unwarned_iff : events.countP (·.level = .warn) = 0 ↔ ∃ plan, result = .ok plan
  parts : ∃ filtering sorting warning, LogParts schema r filtering sorting warning ∧
    events = filtering.toList ++ sorting.toList ++ warning.toList

/-- The log of a list: that of compiling the request and, just if the request compiles, one event
more, which tells the query and the number of its values, one for each predicate. -/
structure ListLog (schema : Schema) (r : ListRequest) (events : List Event) : Prop where
  executed : ∀ plan, (r.compile schema).2 = .ok plan → ∃ e, events = (r.compile schema).1 ++ [e] ∧
    e.Executes (plan.toQuery schema) ∧
    (plan.toQuery schema).values.length = plan.predicate.toList.length
  refused : ∀ cause, (r.compile schema).2 = .error cause → events = (r.compile schema).1
  executing_iff : (∃ e ∈ events, e.message = "Executing list query") ↔
    ∃ plan, (r.compile schema).2 = .ok plan

/-! ## Compiling -/

section
variable {schema : Schema} {r : ListRequest}

theorem compile_of_filter_refused {cause : Rejection}
    (h : Filter.compile schema r.filterBy = .error cause) :
    r.compile schema = ([.rejectedFilter schema.entity r.filterBy cause], .error cause) := by
  rw [ListRequest.compile, h]

theorem compile_of_order_refused {found : Option Filter.Predicate} {cause : Rejection}
    (h : Filter.compile schema r.filterBy = .ok found)
    (h' : SortOrder.compile schema r.sortBy = .error cause) :
    r.compile schema =
      ((found.map fun p => .filtering schema.entity r.filterBy p.fragment).toList
        ++ [.rejectedSort schema.entity r.sortBy cause], .error cause) := by
  rw [ListRequest.compile, h]
  dsimp only
  rw [h', Option.toList_map]

theorem compile_of_accepted {predicate : Option Filter.Predicate} {order : Option SortOrder}
    (h : Filter.compile schema r.filterBy = .ok predicate)
    (h' : SortOrder.compile schema r.sortBy = .ok order) :
    r.compile schema =
      ((predicate.map fun p => .filtering schema.entity r.filterBy p.fragment).toList
        ++ (order.map fun o => .sorting schema.entity r.sortBy o.fragment).toList,
        .ok ⟨predicate, order⟩) := by
  rw [ListRequest.compile, h]
  dsimp only
  rw [h', Option.toList_map, Option.toList_map]

/-- What compiling logs has the three parts. -/
theorem exists_parts (schema : Schema) (r : ListRequest) : ∃ filtering sorting warning,
    LogParts schema r filtering sorting warning ∧
      (r.compile schema).1 = filtering.toList ++ sorting.toList ++ warning.toList := by
  cases h : Filter.compile schema r.filterBy with
  | error cause =>
    rw [compile_of_filter_refused h]
    refine ⟨none, none, some (.rejectedFilter schema.entity r.filterBy cause), ?_, rfl⟩
    exact
      { filtering_iff := by simp [h]
        filtering := fun e p he => by cases he
        sorting_iff := by simp [h]
        sorting := fun e o he => by cases he
        warning_iff := by simp [compile_of_filter_refused h]
        filter_refused := fun e cause' he hc => by
          cases he
          cases h.symm.trans hc
          exact Event.warns_rejectedFilter _ _ _
        order_refused := fun e found cause' he hf => by cases h.symm.trans hf }
  | ok found =>
    let filtering : Option Event :=
      found.map fun p => .filtering schema.entity r.filterBy p.fragment
    have hfiltering : filtering.isSome ↔ ∃ p, Filter.compile schema r.filterBy = .ok (some p) := by
      cases hfound : found <;> simp [filtering, h, hfound]
    have hreports : ∀ e p, filtering = some e → Filter.compile schema r.filterBy = .ok (some p) →
        e.Reports "Filtering" p.fragment := fun e p he hp => by
      cases h.symm.trans hp
      obtain rfl := Option.some.inj he
      exact Event.reports_filtering _ _ _
    cases h' : SortOrder.compile schema r.sortBy with
    | error cause =>
      rw [compile_of_order_refused h h']
      refine ⟨filtering, none, some (.rejectedSort schema.entity r.sortBy cause), ?_,
        by simp [filtering]⟩
      exact
        { filtering_iff := hfiltering
          filtering := hreports
          sorting_iff := by simp [h']
          sorting := fun e o he => by cases he
          warning_iff := by simp [compile_of_order_refused h h']
          filter_refused := fun e cause' he hc => by cases h.symm.trans hc
          order_refused := fun e found' cause' he hf hc => by
            cases he
            cases h'.symm.trans hc
            exact Event.warns_rejectedSort _ _ _ }
    | ok order =>
      rw [compile_of_accepted h h']
      refine ⟨filtering, order.map fun o => .sorting schema.entity r.sortBy o.fragment, none, ?_,
        by simp [filtering]⟩
      exact
        { filtering_iff := hfiltering
          filtering := hreports
          sorting_iff := by cases order <;> simp [h, h']
          sorting := fun e o he ho => by
            cases h'.symm.trans ho
            cases he
            exact Event.reports_sorting _ _ _
          warning_iff := by simp [compile_of_accepted h h']
          filter_refused := fun e cause he => by cases he
          order_refused := fun e found' cause he => by cases he }

end

/-! ## Parts -/

section
variable {schema : Schema} {r : ListRequest} {filtering sorting warning : Option Event} {e : Event}

theorem LogParts.reports_of_filtering (h : LogParts schema r filtering sorting warning)
    (he : filtering = some e) : ∃ fragment, e.Reports "Filtering" fragment := by
  obtain ⟨p, hp⟩ := h.filtering_iff.1 (by simp [he])
  exact ⟨_, h.filtering e p he hp⟩

theorem LogParts.reports_of_sorting (h : LogParts schema r filtering sorting warning)
    (he : sorting = some e) : ∃ fragment, e.Reports "Sorting" fragment := by
  obtain ⟨-, o, ho⟩ := h.sorting_iff.1 (by simp [he])
  exact ⟨_, h.sorting e o he ho⟩

theorem LogParts.warns_of_warning (h : LogParts schema r filtering sorting warning)
    (he : warning = some e) :
    ∃ cause, e.Warns "Rejected filter" cause ∨ e.Warns "Rejected sort" cause := by
  obtain ⟨cause, hcause⟩ := h.warning_iff.1 (by simp [he])
  cases hf : Filter.compile schema r.filterBy with
  | error cause' => exact ⟨cause', .inl (h.filter_refused e cause' he hf)⟩
  | ok found =>
    cases hs : SortOrder.compile schema r.sortBy with
    | error cause' => exact ⟨cause', .inr (h.order_refused e found cause' he hf hs)⟩
    | ok order =>
      rw [compile_of_accepted hf hs] at hcause
      cases hcause

/-- Of the parts of a log only the warning is a warning. -/
theorem LogParts.countP_warn (h : LogParts schema r filtering sorting warning) :
    (filtering.toList ++ sorting.toList ++ warning.toList).countP (·.level = .warn)
      = warning.toList.length := by
  have hfiltering : filtering.toList.countP (·.level = .warn) = 0 := by
    rw [List.countP_eq_zero]
    intro e he
    obtain ⟨fragment, hreports⟩ := h.reports_of_filtering (Option.mem_toList.1 he)
    simp [hreports.level]
  have hsorting : sorting.toList.countP (·.level = .warn) = 0 := by
    rw [List.countP_eq_zero]
    intro e he
    obtain ⟨fragment, hreports⟩ := h.reports_of_sorting (Option.mem_toList.1 he)
    simp [hreports.level]
  have hwarning : warning.toList.countP (·.level = .warn) = warning.toList.length := by
    rw [List.countP_eq_length]
    intro e he
    obtain ⟨cause, hwarns | hwarns⟩ := h.warns_of_warning (Option.mem_toList.1 he) <;>
      simp [hwarns.level]
  rw [List.countP_append, List.countP_append, hfiltering, hsorting, hwarning, Nat.zero_add]

/-- No part of a log of compiling tells of a query. -/
theorem LogParts.message_ne (h : LogParts schema r filtering sorting warning)
    (he : e ∈ filtering.toList ++ sorting.toList ++ warning.toList) :
    e.message ≠ "Executing list query" := by
  rw [List.mem_append, List.mem_append, Option.mem_toList, Option.mem_toList,
    Option.mem_toList] at he
  rcases he with (he | he) | he
  · obtain ⟨fragment, hreports⟩ := h.reports_of_filtering he
    simp [hreports.message]
  · obtain ⟨fragment, hreports⟩ := h.reports_of_sorting he
    simp [hreports.message]
  · obtain ⟨cause, hwarns | hwarns⟩ := h.warns_of_warning he <;> simp [hwarns.message]

end

/-! ## Requests -/

theorem compile_log (schema : Schema) (r : ListRequest) :
    CompileLog schema r (r.compile schema).1 (r.compile schema).2 := by
  obtain ⟨filtering, sorting, warning, hparts, hevents⟩ := exists_parts schema r
  have hcount : (r.compile schema).1.countP (·.level = .warn) = warning.toList.length := by
    rw [hevents, hparts.countP_warn]
  have hwarning := hparts.warning_iff
  exact
    { filter_refused := fun cause h => by rw [compile_of_filter_refused h]
      order_refused := fun found cause h h' => by rw [compile_of_order_refused h h']
      accepted := fun predicate order h h' => by rw [compile_of_accepted h h']
      warned_iff := by
        rw [hcount, ← hwarning]
        cases warning <;> simp
      unwarned_iff := by
        rw [hcount]
        cases hresult : (r.compile schema).2 <;> cases warning <;> simp_all
      parts := ⟨filtering, sorting, warning, hparts, hevents⟩ }

theorem message_ne_of_mem_compile {schema : Schema} {r : ListRequest} {e : Event}
    (he : e ∈ (r.compile schema).1) : e.message ≠ "Executing list query" := by
  obtain ⟨filtering, sorting, warning, hparts, hevents⟩ := exists_parts schema r
  exact hparts.message_ne (hevents ▸ he)

/-- One value is bound for each predicate. -/
theorem Plan.length_values_toQuery (plan : Plan) (schema : Schema) :
    (plan.toQuery schema).values.length = plan.predicate.toList.length := by
  rw [toQuery_eq]
  cases plan.predicate <;> rfl

/-- A list logs the query of a request that compiles, whatever the table. -/
theorem listTable_log {α : Type} [Record α] (table : Option (List α)) (r : ListRequest) :
    ListLog (Record.schema α) r (listTable table r).1 := by
  have hcompile : r.compile (Record.schema α)
      = ((r.compile (Record.schema α)).1, (r.compile (Record.schema α)).2) := rfl
  rw [listTable]
  cases h : (r.compile (Record.schema α)).2 with
  | error cause =>
    rw [h] at hcompile
    rw [hcompile]
    exact
      { executed := fun plan hplan => by cases h.symm.trans hplan
        refused := fun _ _ => rfl
        executing_iff := by
          refine ⟨fun ⟨e, he, hmessage⟩ => absurd hmessage (message_ne_of_mem_compile he), ?_⟩
          rintro ⟨plan, hplan⟩
          cases h.symm.trans hplan }
  | ok plan =>
    rw [h] at hcompile
    rw [hcompile]
    have hexecutes := Event.executes_executing (plan.toQuery (Record.schema α))
    exact
      { executed := fun plan' hplan => by
          cases h.symm.trans hplan
          exact ⟨_, rfl, hexecutes, Plan.length_values_toQuery plan _⟩
        refused := fun cause hcause => by cases h.symm.trans hcause
        executing_iff := iff_of_true ⟨_, List.mem_append_right _ (List.mem_singleton_self _),
          hexecutes.message⟩ ⟨plan, h⟩ }

/-- The log says what became of a request: of compiling it against any schema, of listing any table,
and of listing either entity in any state of the store. -/
theorem log_says_outcome :
    (∀ schema r, CompileLog schema r (ListRequest.compile schema r).1
      (ListRequest.compile schema r).2) ∧
    (∀ (α : Type) [Record α] (table : Option (List α)) (r : ListRequest),
      ListLog (Record.schema α) r (listTable table r).1) ∧
    ∀ (s : Store) (entity : Entity) (r : ListRequest),
      ListLog entity.schema r (s.list entity r).1 := by
  refine ⟨compile_log, fun α _ => listTable_log, fun s entity r => ?_⟩
  cases entity with
  | boardgames => exact listTable_log s.boardgames r
  | offers => exact listTable_log s.offers r

end Listing
