import Listing.Http.Routes
import Listing.Proofs.Catalog.Answer
import Listing.Proofs.Http.Form
import Listing.Proofs.Json.RoundTrip

/-!
# How a list request is answered

A GET of a list has one of four outcomes, which the query part, the schema and the tables determine
(`ListAnswers`): a repeated name, a rejection, a failure of the database, or the rows. The body of a
rejection is JSON that says its cause, whatever characters the request holds. `respond_listAnswers`
says so of every store and every target that leads to a list.
-/

set_option autoImplicit false

namespace Listing

/-! ## Lists -/

namespace Store

/-- The table of the entity has a row. -/
def HoldsRow (s : Store) : Entity → Prop
  | .boardgames => s.boardgames.getD [] ≠ []
  | .offers => s.offers.getD [] ≠ []

/-- The database cannot run the query of a plan: the table is missing, or it has a row and the
pattern is too long. -/
def Fails (s : Store) (entity : Entity) (plan : Plan) : Prop :=
  s.hasTable entity = false ∨ s.HoldsRow entity ∧ ¬ plan.PatternFits

/-- What a list request comes to. -/
inductive Outcome (s : Store) (entity : Entity) (r : ListRequest) :
    Except ServiceError (List Json) → Prop
  | rejected {cause : Rejection} : (r.compile entity.schema).2 = .error cause →
      Outcome s entity r (.error (.rejected cause))
  | failed {plan : Plan} {cause : DatabaseError} : (r.compile entity.schema).2 = .ok plan →
      s.Fails entity plan → Outcome s entity r (.error (.database cause))
  | listed {plan : Plan} {rows : List Json} : (r.compile entity.schema).2 = .ok plan →
      ¬ s.Fails entity plan → Outcome s entity r (.ok rows)

end Store

section
variable {α : Type} [Record α] {r : ListRequest} {plan : Plan} {cause : Rejection}
  {table : Option (List α)}

/-- A rejection does not depend on the table. -/
theorem listTable_rejected (h : (r.compile (Record.schema α)).2 = .error cause)
    (table : Option (List α)) :
    listTable table r = ((r.compile (Record.schema α)).1, .error (.rejected cause)) := by
  have hcompile : r.compile (Record.schema α) = ((r.compile (Record.schema α)).1, .error cause) :=
    Prod.ext rfl h
  rw [listTable, hcompile]

/-- A request that compiles fails in the database, or lists rows. -/
theorem listTable_cases [Record.Typed α] (h : (r.compile (Record.schema α)).2 = .ok plan)
    (table : Option (List α)) :
    ((table.isSome = false ∨ table.getD [] ≠ [] ∧ ¬ plan.PatternFits) ∧
      ∃ e, (listTable table r).2 = .error (.database e)) ∨
    (¬ (table.isSome = false ∨ table.getD [] ≠ [] ∧ ¬ plan.PatternFits) ∧
      ∃ found, (listTable table r).2 = .ok found) := by
  have hcompile : r.compile (Record.schema α) = ((r.compile (Record.schema α)).1, .ok plan) :=
    Prod.ext rfl h
  have hlist : (listTable table r).2
      = ((plan.toQuery (Record.schema α)).fetch table).mapError .database := by
    rw [listTable, hcompile]
  rw [hlist, fetch_eq h]
  cases table with
  | none => exact .inl ⟨.inl rfl, _, rfl⟩
  | some stored =>
    dsimp only
    have hlong := tooLong_iff h
    rw [Statement.select]
    by_cases hfails : stored ≠ [] ∧ ¬ plan.PatternFits
    · have hselect : (!stored.isEmpty && (plan.statement (Record.schema α)).tooLong
          (plan.predicate.map (·.value)).toList) = true := by
        rw [Bool.and_eq_true, hlong]
        simpa using hfails
      rw [if_pos hselect]
      exact .inl ⟨.inr hfails, _, rfl⟩
    · have hselect : ¬ (!stored.isEmpty && (plan.statement (Record.schema α)).tooLong
          (plan.predicate.map (·.value)).toList) = true := by
        rw [Bool.and_eq_true, hlong]
        simpa using hfails
      rw [if_neg hselect]
      refine .inr ⟨?_, _, rfl⟩
      simpa using hfails

end

namespace Store

variable {s : Store} {entity : Entity} {r : ListRequest} {target : String}

theorem outcome_asJson {α : Type} [Record α] [Record.Typed α] {table : Option (List α)}
    (hschema : Record.schema α = entity.schema) (htable : s.hasTable entity = table.isSome)
    (hrow : s.HoldsRow entity ↔ table.getD [] ≠ []) :
    Outcome s entity r (asJson (listTable table r)).2 := by
  cases hcompile : (r.compile entity.schema).2 with
  | error cause =>
    have hlist := listTable_rejected (hschema ▸ hcompile) table
    rw [hlist]
    exact .rejected hcompile
  | ok plan =>
    have hfails : s.Fails entity plan ↔
        table.isSome = false ∨ table.getD [] ≠ [] ∧ ¬ plan.PatternFits := by
      rw [Fails, htable, hrow]
    rcases listTable_cases (hschema ▸ hcompile) table with ⟨h, e, he⟩ | ⟨h, found, hfound⟩
    · rw [asJson, he]
      exact .failed hcompile (hfails.2 h)
    · rw [asJson, hfound]
      exact .listed hcompile fun hf => h (hfails.1 hf)

/-- Every list request comes to one of the outcomes. -/
theorem outcome_list (s : Store) (entity : Entity) (r : ListRequest) :
    Outcome s entity r (s.list entity r).2 := by
  cases entity with
  | boardgames => exact outcome_asJson rfl rfl Iff.rfl
  | offers => exact outcome_asJson rfl rfl Iff.rfl

theorem asJson_rejected {α : Type} [Record α] {cause : Rejection} (table : Option (List α))
    (hschema : Record.schema α = entity.schema) (h : (r.compile entity.schema).2 = .error cause) :
    asJson (listTable table r) = ((r.compile entity.schema).1, .error (.rejected cause)) := by
  rw [← hschema] at h ⊢
  rw [listTable_rejected h]
  rfl

/-- A request that is refused is refused whatever the tables hold. -/
theorem list_rejected {cause : Rejection} (h : (r.compile entity.schema).2 = .error cause)
    (s : Store) : s.list entity r = ((r.compile entity.schema).1, .error (.rejected cause)) := by
  cases entity with
  | boardgames => exact asJson_rejected s.boardgames rfl h
  | offers => exact asJson_rejected s.offers rfl h

end Store

/-! ## Answers -/

open Form in
/-- How the lists of an entity are answered, whatever the store: the status and the body. -/
structure ListAnswers (entity : Entity) (pairs : List (String × String))
    (answer : Store → Response) : Prop where
  repeated_iff : ∀ s, (answer s).status = 400 ↔ Repeated pairs
  rejected_iff : ∀ s, (answer s).status = 422 ↔
    ¬ Repeated pairs ∧ ∃ cause, ((request pairs).compile entity.schema).2 = .error cause
  failed_iff : ∀ s, (answer s).status = 500 ↔ ¬ Repeated pairs ∧
    ∃ plan, ((request pairs).compile entity.schema).2 = .ok plan ∧ s.Fails entity plan
  listed_iff : ∀ s, (answer s).status = 200 ↔ ¬ Repeated pairs ∧
    ∃ plan, ((request pairs).compile entity.schema).2 = .ok plan ∧ ¬ s.Fails entity plan
  rejected : ∀ s cause, (answer s).status = 422 →
    ((request pairs).compile entity.schema).2 = .error cause →
    Json.read? (answer s).body = some
      (.obj [("error", .str cause.message), ("code", .int 422), ("kind", .str cause.kind)])
  rejected_same : ∀ s s', (answer s).status = 422 → answer s' = answer s
  failed : ∀ s, (answer s).status = 500 →
    (answer s).body = "\x7b\"error\":\"internal error\",\"code\":500\x7d" ∧
    Json.read? (answer s).body = some (.obj [("error", .str "internal error"), ("code", .int 500)])
  listed : ∀ s, (answer s).status = 200 → ∃ rows, (s.list entity (request pairs)).2 = .ok rows ∧
    Json.read? (answer s).body = some (.arr (Json.toldItems rows))
  code : ∀ s members, Json.read? (answer s).body = some (.obj members) →
    members.lookup "code" = some (.int (answer s).status)

namespace Store

variable {s : Store} {entity : Entity} {query : String} {target : String}

theorem respond_get (s : Store)
    (h : Route.ofPath? (Target.ofText target).path = some (.list entity)) :
    s.respond "GET" target = s.answerList entity (Target.ofText target).query := by
  rw [respond]
  dsimp only
  rw [h]
  dsimp only
  rw [if_pos rfl, get]

/-- A query part that repeats a name is answered in plain text, whatever the store. -/
theorem answerList_repeated (h : Form.Repeated (Form.decode query)) (entity : Entity) :
    ∃ p : Parameter, ∀ s : Store, s.answerList entity query = ([], .plain 400
      ("Failed to deserialize query string: duplicate field \x60" ++ p.name ++ "\x60")) := by
  obtain ⟨p, hp⟩ := Form.ofPairs_eq_error h
  refine ⟨p, fun s => ?_⟩
  rw [answerList, ListRequest.ofQuery, hp]

/-- The response to a list request, outcome by outcome. -/
inductive Answered (s : Store) (entity : Entity) (pairs : List (String × String)) : Response → Prop
  | repeated (p : Parameter) : Form.Repeated pairs → Answered s entity pairs (.plain 400
      ("Failed to deserialize query string: duplicate field \x60" ++ p.name ++ "\x60"))
  | rejected {cause : Rejection} : ¬ Form.Repeated pairs →
      ((Form.request pairs).compile entity.schema).2 = .error cause →
      Answered s entity pairs (.json 422 (ServiceError.rejected cause).toJson)
  | failed {plan : Plan} {cause : DatabaseError} : ¬ Form.Repeated pairs →
      ((Form.request pairs).compile entity.schema).2 = .ok plan → s.Fails entity plan →
      Answered s entity pairs (.json 500 (ServiceError.database cause).toJson)
  | listed {plan : Plan} {rows : List Json} : ¬ Form.Repeated pairs →
      ((Form.request pairs).compile entity.schema).2 = .ok plan → ¬ s.Fails entity plan →
      (s.list entity (Form.request pairs)).2 = .ok rows →
      Answered s entity pairs (.json 200 (.arr rows))

theorem answered (s : Store) (entity : Entity) (query : String) :
    Answered s entity (Form.decode query) (s.answerList entity query).2 := by
  by_cases h : Form.Repeated (Form.decode query)
  · obtain ⟨p, hp⟩ := answerList_repeated h entity
    rw [hp s]
    exact .repeated p h
  · have houtcome := outcome_list s entity (Form.request (Form.decode query))
    rw [answerList, ListRequest.ofQuery, Form.ofPairs_eq_ok h]
    dsimp only
    cases hlist : s.list entity (Form.request (Form.decode query)) with
    | mk events result =>
      rw [hlist] at houtcome
      have hresult : (s.list entity (Form.request (Form.decode query))).2 = result := by rw [hlist]
      cases houtcome with
      | rejected hcompile => exact .rejected h hcompile
      | failed hcompile hfails => exact .failed h hcompile hfails
      | listed hcompile hfits => exact .listed h hcompile hfits hresult

variable {pairs : List (String × String)} {response : Response}

/-- The status tells the outcome. -/
theorem Answered.status (h : Answered s entity pairs response) :
    (response.status = 400 ↔ Form.Repeated pairs) ∧
    (response.status = 422 ↔ ¬ Form.Repeated pairs ∧
      ∃ cause, ((Form.request pairs).compile entity.schema).2 = .error cause) ∧
    (response.status = 500 ↔ ¬ Form.Repeated pairs ∧
      ∃ plan, ((Form.request pairs).compile entity.schema).2 = .ok plan ∧ s.Fails entity plan) ∧
    (response.status = 200 ↔ ¬ Form.Repeated pairs ∧
      ∃ plan, ((Form.request pairs).compile entity.schema).2 = .ok plan ∧
        ¬ s.Fails entity plan) := by
  cases h with
  | repeated p hr => simp [Response.plain, hr]
  | rejected hr hc => simp [Response.json, hr, hc]
  | failed hr hc hf => simp [Response.json, hr, hc, hf]
  | listed hr hc hf => simp [Response.json, hr, hc, hf]

theorem read?_json (status : Nat) (j : Json) :
    Json.read? (Response.json status j).body = some j.told :=
  Json.read?_render j

theorem told_rejected (cause : Rejection) : (ServiceError.rejected cause).toJson.told
    = .obj [("error", .str cause.message), ("code", .int 422), ("kind", .str cause.kind)] := rfl

/-- What the database says of its failure is not told. -/
theorem told_database (cause : DatabaseError) : (ServiceError.database cause).toJson.told
    = .obj [("error", .str "internal error"), ("code", .int 500)] := rfl

/-- The message of a repeated name is no JSON. -/
theorem read?_repeated (p : Parameter) :
    Json.read?
      ("Failed to deserialize query string: duplicate field \x60" ++ p.name ++ "\x60") = none := by
  cases p <;> decide +kernel

theorem Answered.rejected_body {cause : Rejection} (h : Answered s entity pairs response)
    (hstatus : response.status = 422)
    (hc : ((Form.request pairs).compile entity.schema).2 = .error cause) :
    Json.read? response.body = some
      (.obj [("error", .str cause.message), ("code", .int 422), ("kind", .str cause.kind)]) := by
  cases h with
  | repeated => cases hstatus
  | rejected _ hc' =>
    cases hc.symm.trans hc'
    rw [read?_json, told_rejected]
  | failed => cases hstatus
  | listed => cases hstatus

theorem Answered.failed_body (h : Answered s entity pairs response)
    (hstatus : response.status = 500) :
    response.body = "\x7b\"error\":\"internal error\",\"code\":500\x7d" ∧
      Json.read? response.body
        = some (.obj [("error", .str "internal error"), ("code", .int 500)]) := by
  cases h with
  | repeated => cases hstatus
  | rejected => cases hstatus
  | failed =>
    refine ⟨?_, by rw [read?_json, told_database]⟩
    show (Json.obj [("error", .str "internal error"), ("code", .int 500)]).render = _
    decide +kernel
  | listed => cases hstatus

theorem Answered.listed_body (h : Answered s entity pairs response)
    (hstatus : response.status = 200) :
    ∃ rows, (s.list entity (Form.request pairs)).2 = .ok rows ∧
      Json.read? response.body = some (.arr (Json.toldItems rows)) := by
  cases h with
  | repeated => cases hstatus
  | rejected => cases hstatus
  | failed => cases hstatus
  | listed _ _ _ hrows => exact ⟨_, hrows, read?_json _ _⟩

/-- An error body tells the status. -/
theorem Answered.code {members : List (String × Json)} (h : Answered s entity pairs response)
    (hbody : Json.read? response.body = some (.obj members)) :
    members.lookup "code" = some (.int response.status) := by
  cases h with
  | repeated p =>
    have hnone := read?_repeated p
    cases hnone.symm.trans hbody
  | rejected =>
    rw [read?_json, told_rejected] at hbody
    cases hbody
    simp [Response.json, List.lookup_cons]
  | failed =>
    rw [read?_json, told_database] at hbody
    cases hbody
    simp [Response.json, List.lookup_cons]
  | listed =>
    rw [read?_json] at hbody
    cases hbody

/-- A rejection is the same in every store. -/
theorem answerList_same (query : String) (s s' : Store)
    (h : (s.answerList entity query).2.status = 422) :
    s'.answerList entity query = s.answerList entity query := by
  obtain ⟨hr, cause, hc⟩ := (answered s entity query).status.2.1.1 h
  unfold answerList
  rw [ListRequest.ofQuery, Form.ofPairs_eq_ok hr]
  dsimp only
  rw [list_rejected hc, list_rejected hc]

/-- A GET of a list is answered with one of four statuses, each just where its cause is, and with a
body that says what its status says. -/
theorem respond_listAnswers (target : String) (entity : Entity)
    (h : Route.ofPath? (Target.ofText target).path = some (.list entity)) :
    ListAnswers entity (Form.decode (Target.ofText target).query)
      fun s => (s.respond "GET" target).2 := by
  have hget : (fun s : Store => (s.respond "GET" target).2)
      = fun s => (s.answerList entity (Target.ofText target).query).2 :=
    funext fun s => by rw [respond_get s h]
  rw [hget]
  generalize (Target.ofText target).query = query
  exact
    { repeated_iff := fun s => (answered s entity query).status.1
      rejected_iff := fun s => (answered s entity query).status.2.1
      failed_iff := fun s => (answered s entity query).status.2.2.1
      listed_iff := fun s => (answered s entity query).status.2.2.2
      rejected := fun s _ => (answered s entity query).rejected_body
      rejected_same := fun s s' hs => congrArg Prod.snd (answerList_same query s s' hs)
      failed := fun s => (answered s entity query).failed_body
      listed := fun s => (answered s entity query).listed_body
      code := fun s _ => (answered s entity query).code }

/-- A filter with a quote, a backslash and a line break in it is told as it is. -/
theorem respond_listAnswers_quote :
    let target := "/boardgames?filterBy=%22%5C%0A.a"
    ListAnswers .boardgames (Form.decode (Target.ofText target).query)
      (fun s => (s.respond "GET" target).2) ∧
    Json.read? (Store.empty.respond "GET" target).2.body = some (.obj
      [("error", .str "no field named '\"\\\n' on boardgames"), ("code", .int 422),
        ("kind", .str "unknown_field")]) := by
  intro target
  have h := respond_listAnswers target .boardgames (by decide +kernel)
  have hstatus : (Store.empty.respond "GET" target).2.status = 422 := by decide +kernel
  have hc : ((Form.request (Form.decode (Target.ofText target).query)).compile Boardgame.schema).2
      = .error (.unknownField "\"\\\n" "boardgames") := by decide +kernel
  exact ⟨h, h.rejected .empty _ hstatus hc⟩

end Store

end Listing
