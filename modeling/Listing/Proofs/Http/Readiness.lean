import Listing.Http.Session
import Listing.Proofs.Http.Agreement

/-!
# Readiness and the lists

The probe of an entity and the lists of it take different ways to the table, and agree: the entity
is reported reachable just if its table is there, which is so just if every list that compiles with
a pattern that fits is answered with rows, and just if some list is (`ReportsReadiness`).
`respond_reportsReadiness` says so of every store, and of every target that leads to the report.
-/

set_option autoImplicit false

namespace Listing

/-! ## Probes -/

theorem Statement.words_probe {name : String} (h : Plain name) :
    words ("SELECT 1 FROM " ++ name ++ " LIMIT 1") =
      ["SELECT", "1", "FROM", name, "LIMIT", "1"] := by
  have hsplit : "SELECT 1 FROM " ++ name ++ " LIMIT 1"
      = "SELECT" ++ " "
        ++ ("1" ++ " " ++ ("FROM" ++ " " ++ (name ++ " " ++ ("LIMIT" ++ " " ++ "1")))) := by
    have hfront : "SELECT 1 FROM " = "SELECT" ++ (" " ++ ("1" ++ (" " ++ ("FROM" ++ " ")))) := rfl
    have hback : " LIMIT 1" = " " ++ ("LIMIT" ++ (" " ++ "1")) := rfl
    simp only [hfront, hback, String.append_assoc]
  rw [hsplit, words_append, words_append, words_append, words_append, words_append, words_plain h]
  rfl

theorem Entity.plain_name (e : Entity) : Plain e.name := by
  cases e <;> decide

theorem Statement.readProbe?_probe (e : Entity) : readProbe? e.probe = some e.name := by
  rw [readProbe?, Entity.probe, words_probe e.plain_name]
  rfl

namespace Store

variable {s : Store} {entity : Entity}

theorem isSome_rowCount?_name (s : Store) (e : Entity) :
    (s.rowCount? e.name).isSome = s.hasTable e := by
  cases e with
  | boardgames => rw [rowCount?, if_pos rfl, Option.isSome_map, hasTable]
  | offers => rw [rowCount?, if_neg (by decide), if_pos rfl, Option.isSome_map, hasTable]

/-- A probe is answered just if the table is there, with rows or without. -/
theorem isReachable_eq_hasTable (s : Store) (e : Entity) : s.isReachable e = s.hasTable e := by
  rw [isReachable, fetchProbe, Statement.readProbe?_probe, ← isSome_rowCount?_name]
  dsimp only
  cases s.rowCount? e.name <;> rfl

/-! ## Lists -/

/-- A target that leads to a list of an entity. -/
def LeadsTo (target : String) (entity : Entity) : Prop :=
  Route.ofPath? (Target.ofText target).path = some (.list entity)

/-- A list that is asked for is answered with rows just if it compiles and the database does not
fail. -/
theorem status_list_iff {target : String} {r : ListRequest} (h : LeadsTo target entity)
    (hasks : Form.Asks (Form.decode (Target.ofText target).query) r) :
    (s.respond "GET" target).2.status = 200 ↔
      ∃ plan, (r.compile entity.schema).2 = .ok plan ∧ ¬ s.Fails entity plan := by
  rw [respond_get s h, (answered s entity _).status.2.2.2, hasks.request_eq]
  simp [hasks.not_repeated]

/-- A target that leads to a list with rows shows that the table is there. -/
theorem hasTable_of_status {target : String} (h : LeadsTo target entity)
    (hstatus : (s.respond "GET" target).2.status = 200) : s.hasTable entity = true := by
  rw [respond_get s h, (answered s entity _).status.2.2.2] at hstatus
  obtain ⟨-, plan, -, hfails⟩ := hstatus
  by_contra hnone
  exact hfails (.inl (Bool.eq_false_iff.2 hnone))

theorem leadsTo_asking (entity : Entity) (r : ListRequest) :
    LeadsTo (entity.target (Form.asking r)) entity :=
  ofPath?_target entity (Form.hash_not_mem_asking r)

theorem asks_target_asking (entity : Entity) (r : ListRequest) :
    Form.Asks (Form.decode (Target.ofText (entity.target (Form.asking r))).query) r :=
  asks_target entity (Form.hash_not_mem_asking r) (Form.writes_asking r) (Form.asks_asking r)

/-- Every list of the entity that compiles with a pattern that fits is answered with rows. -/
def ListsAll (s : Store) (entity : Entity) : Prop := ∀ target r plan, LeadsTo target entity →
  Form.Asks (Form.decode (Target.ofText target).query) r → (r.compile entity.schema).2 = .ok plan →
  plan.PatternFits → (s.respond "GET" target).2.status = 200

/-- Some list of the entity is answered with rows. -/
def ListsSome (s : Store) (entity : Entity) : Prop :=
  ∃ target, LeadsTo target entity ∧ (s.respond "GET" target).2.status = 200

theorem listsAll_of_hasTable (h : s.hasTable entity = true) : s.ListsAll entity := by
  intro target r plan hleads hasks hcompile hfits
  refine (status_list_iff hleads hasks).2 ⟨plan, hcompile, ?_⟩
  rintro (hnone | ⟨-, hlong⟩)
  · cases h.symm.trans hnone
  · exact hlong hfits

/-- The list without a filter and an order compiles and has no pattern. -/
theorem ListsAll.listsSome (h : s.ListsAll entity) : s.ListsSome entity := by
  refine ⟨_, leadsTo_asking entity ⟨"", ""⟩, ?_⟩
  have hcompile : (ListRequest.compile entity.schema ⟨"", ""⟩).2 = .ok ⟨none, none⟩ := rfl
  exact h _ _ _ (leadsTo_asking entity _) (asks_target_asking entity _) hcompile
    fun p hp => by cases hp

theorem listsAll_iff_hasTable : s.ListsAll entity ↔ s.hasTable entity = true := by
  refine ⟨fun h => ?_, listsAll_of_hasTable⟩
  obtain ⟨target, hleads, hstatus⟩ := h.listsSome
  exact hasTable_of_status hleads hstatus

theorem listsSome_iff_hasTable : s.ListsSome entity ↔ s.hasTable entity = true := by
  refine ⟨fun ⟨target, hleads, hstatus⟩ => hasTable_of_status hleads hstatus, fun h => ?_⟩
  exact (listsAll_of_hasTable h).listsSome

/-! ## The report -/

/-- The report of readiness: both entities in order, each reported reachable just if it can be
listed, and a warning for each that cannot. -/
structure ReportsReadiness (s : Store) (answer : List Event × Response) (reachable : Entity → Bool)
    (ready : Bool) : Prop where
  status : answer.2.status = 200
  body : Json.read? answer.2.body = some (.obj [("ready", .bool ready), ("entities", .arr
    [.obj [("entity", .str "boardgames"), ("reachable", .bool (reachable .boardgames))],
      .obj [("entity", .str "offers"), ("reachable", .bool (reachable .offers))]])])
  reachable_iff_table : ∀ entity, reachable entity = true ↔ s.hasTable entity = true
  reachable_iff_all : ∀ entity, reachable entity = true ↔ s.ListsAll entity
  reachable_iff_some : ∀ entity, reachable entity = true ↔ s.ListsSome entity
  ready_iff : ready = true ↔ ∀ entity, reachable entity = true
  warned : (answer.1.filter (·.level = .warn)).map (fun e => (e.message, e.fields)) =
    ([Entity.boardgames, .offers].filter fun e => !reachable e).map fun e =>
      ("Catalog table not reachable", [("entity", .text e.name)])

theorem respond_ready {target : String} (s : Store)
    (h : Route.ofPath? (Target.ofText target).path = some .ready) :
    s.respond "GET" target = s.readiness := by
  rw [respond]
  dsimp only
  rw [h]
  dsimp only
  rw [if_pos rfl, get]

/-- The report logs a warning for each entity that is not reachable, and nothing else. -/
theorem warned_readiness (s : Store) :
    (s.readiness.1.filter (·.level = .warn)).map (fun e => (e.message, e.fields)) =
      (entities.filter fun e => !s.isReachable e).map fun e =>
        ("Catalog table not reachable", [("entity", .text e.name)]) := by
  have hwarn : ∀ e ∈ s.readiness.1, decide (e.level = .warn) = true := by
    intro e he
    obtain ⟨entity, -, rfl⟩ := List.mem_map.1 he
    rfl
  rw [List.filter_eq_self.2 hwarn, readiness, List.map_map]
  rfl

theorem ready_iff_all (reachable : Entity → Bool) :
    entities.all reachable = true ↔ ∀ entity, reachable entity = true := by
  rw [List.all_eq_true]
  refine ⟨fun h entity => h entity ?_, fun h entity _ => h entity⟩
  cases entity <;> simp [entities]

/-- What is reported of the entities is what the lists of them can do, in every store; and the store
stays as it is. -/
theorem respond_reportsReadiness {target : String} (s : Store)
    (h : Route.ofPath? (Target.ofText target).path = some .ready) :
    (∃ reachable ready, ReportsReadiness s (s.respond "GET" target) reachable ready) ∧
      s.act (.request "GET" target) = s := by
  refine ⟨⟨s.isReachable, entities.all s.isReachable, ?_⟩, rfl⟩
  rw [respond_ready s h]
  have hreachable : ∀ entity, s.isReachable entity = true ↔ s.hasTable entity = true :=
    fun entity => by
    rw [isReachable_eq_hasTable]
  exact
    { status := rfl
      body := read?_json _ _
      reachable_iff_table := hreachable
      reachable_iff_all := fun entity => (hreachable entity).trans listsAll_iff_hasTable.symm
      reachable_iff_some := fun entity => (hreachable entity).trans listsSome_iff_hasTable.symm
      ready_iff := ready_iff_all _
      warned := warned_readiness s }

/-- The games were dropped, and no offer is there yet: the offers can be listed, the games
cannot. -/
theorem respond_reportsReadiness_dropped :
    let s := reached [.createTables, .drop .boardgames]
    (∃ reachable ready, ReportsReadiness s (s.respond "GET" "/readyz?verbose") reachable ready ∧
      reachable .boardgames = false ∧ reachable .offers = true ∧ ready = false) ∧
      s.offers = some [] := by
  intro s
  have hpath : Route.ofPath? (Target.ofText "/readyz?verbose").path = some .ready := by
    decide +kernel
  obtain ⟨⟨reachable, ready, h⟩, -⟩ := respond_reportsReadiness s hpath
  have hgames : reachable .boardgames = false := by
    rw [Bool.eq_false_iff, Ne, h.reachable_iff_table]
    decide
  have hoffers : reachable .offers = true := (h.reachable_iff_table .offers).2 rfl
  refine ⟨⟨reachable, ready, h, hgames, hoffers, ?_⟩, rfl⟩
  rw [Bool.eq_false_iff, Ne, h.ready_iff]
  exact fun hall => Bool.false_ne_true (hgames.symm.trans (hall .boardgames))

end Store

end Listing
