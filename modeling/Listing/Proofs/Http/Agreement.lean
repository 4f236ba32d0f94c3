import Listing.Proofs.Http.Outcome
import Listing.Proofs.Http.Spelling

/-!
# Lists over HTTP and direct lists

A GET of a list is answered with what a direct list of the two texts in its query part gives: the
rows in their order, or the error (`Tells`). What else the query part holds, in which order and in
which spelling, does not matter, and there is a query part for every two texts, whatever their
characters (`respond_agrees`).
-/

set_option autoImplicit false

namespace Listing

/-! ## Pairs that ask for a list -/

namespace Form

/-- One pair alone gives the text for a name; or none does, and the text is empty. -/
def Gives (pairs : List (String × String)) (name text : String) : Prop :=
  (name ∉ pairs.map Prod.fst ∧ text = "") ∨
    ∃ before after, pairs = before ++ (name, text) :: after ∧
      name ∉ before.map Prod.fst ∧ name ∉ after.map Prod.fst

/-- The pairs give both texts of a request. -/
def Asks (pairs : List (String × String)) (r : ListRequest) : Prop :=
  Gives pairs "filterBy" r.filterBy ∧ Gives pairs "sortBy" r.sortBy

variable {pairs : List (String × String)} {name text : String} {r : ListRequest}

theorem lookup_of_not_mem (h : name ∉ pairs.map Prod.fst) : pairs.lookup name = none := by
  rw [List.lookup_eq_none_iff]
  intro pair hpair
  exact bne_iff_ne.2 fun heq => h (heq ▸ List.mem_map_of_mem hpair)

theorem Gives.times_le (h : Gives pairs name text) : times name pairs ≤ 1 := by
  rcases h with ⟨hnone, -⟩ | ⟨before, after, rfl, hbefore, hafter⟩
  · rw [times, List.count_eq_zero.2 hnone]
    exact Nat.zero_le 1
  · rw [times, List.map_append, List.map_cons, List.count_append, List.count_cons_self,
      List.count_eq_zero.2 hbefore, List.count_eq_zero.2 hafter]

theorem Gives.given_eq (h : Gives pairs name text) : given name pairs = text := by
  rcases h with ⟨hnone, rfl⟩ | ⟨before, after, rfl, hbefore, -⟩
  · rw [given, lookup_of_not_mem hnone]
    rfl
  · rw [given, List.lookup_append, lookup_of_not_mem hbefore, lookup_cons, if_pos rfl]
    rfl

theorem Asks.not_repeated (h : Asks pairs r) : ¬ Repeated pairs := by
  have hf := h.1.times_le
  have hs := h.2.times_le
  unfold Repeated
  omega

theorem Asks.request_eq (h : Asks pairs r) : request pairs = r := by
  rw [request, h.1.given_eq, h.2.given_eq]

theorem asks_asking (r : ListRequest) :
    Asks [("filterBy", r.filterBy), ("sortBy", r.sortBy)] r := by
  refine ⟨.inr ⟨[], [("sortBy", r.sortBy)], rfl, ?_, ?_⟩,
    .inr ⟨[("filterBy", r.filterBy)], [], rfl, ?_, ?_⟩⟩ <;> simp

end Form

/-! ## Targets of lists -/

/-- The target of an entity's list with a query part. -/
def Entity.target (entity : Entity) (query : String) : String := "/" ++ entity.name ++ "?" ++ query

theorem Entity.name_boardgames : Entity.boardgames.name = "boardgames" := rfl

theorem Entity.name_offers : Entity.offers.name = "offers" := rfl

theorem Target.ofText_target {query : String} (entity : Entity) (h : '#' ∉ query.toList) :
    Target.ofText (entity.target query) = ⟨"/" ++ entity.name, query⟩ := by
  have hpath : ∀ c ∈ '/' :: entity.name.toList, c ≠ '#' ∧ c ≠ '?' := by
    cases entity
    · simp [Entity.name_boardgames]
    · simp [Entity.name_offers]
  have htext :
      (entity.target query).toList = ('/' :: entity.name.toList) ++ '?' :: query.toList := by
    simp [Entity.target]
  have hwhole :
      (entity.target query).toList.takeWhile (· != '#') = (entity.target query).toList := by
    rw [List.takeWhile_eq_self_iff, htext]
    intro c hc
    rcases List.mem_append.1 hc with hc | hc
    · exact bne_iff_ne.2 (hpath c hc).1
    · rcases List.mem_cons.1 hc with rfl | hc
      · decide
      · exact bne_iff_ne.2 fun heq => h (heq ▸ hc)
  have hcut : ∀ c ∈ '/' :: entity.name.toList, (c != '?') = true := fun c hc =>
    bne_iff_ne.2 (hpath c hc).2
  rw [Target.ofText, hwhole, htext, if_pos (by simp), ofPathAndQuery,
    List.takeWhile_append_of_pos hcut, List.dropWhile_append_of_pos hcut]
  simp [String.ofList_cons]

theorem Route.ofPath?_name (entity : Entity) :
    Route.ofPath? ("/" ++ entity.name) = some (.list entity) := by
  cases entity
  · rw [Entity.name_boardgames]
    decide +kernel
  · rw [Entity.name_offers]
    decide +kernel

/-! ## Responses -/

namespace Store

/-- The response that tells the result of a direct list: the texts of its rows in an array, or its
error with the status that is its code. -/
inductive Tells : Except ServiceError (List Json) → Response → Prop
  | rows (found : List Json) : Tells (.ok found)
      ⟨200, some "application/json", "[" ++ ",".intercalate (found.map Json.render) ++ "]", none⟩
  | error (cause : ServiceError) : Tells (.error cause)
      ⟨cause.code, some "application/json", (Json.obj ([("error", .str cause.message),
        ("code", .int cause.code)]
        ++ cause.kind?.toList.map fun kind => ("kind", .str kind))).render, none⟩

/-- A target is answered as a direct list is; without a body, if only the head is asked for. -/
structure Told (s : Store) (entity : Entity) (r : ListRequest) (target : String) : Prop where
  get : Tells (s.list entity r).2 (s.respond "GET" target).2
  head : (s.respond "HEAD" target).2 = { (s.respond "GET" target).2 with body := "" }

variable {entity : Entity} {r : ListRequest} {query target : String}

theorem tells_answerList (h : Form.Asks (Form.decode query) r) (s : Store) :
    Tells (s.list entity r).2 (s.answerList entity query).2 := by
  rw [answerList, ListRequest.ofQuery, Form.ofPairs_eq_ok h.not_repeated, h.request_eq]
  dsimp only
  rcases s.list entity r with ⟨events, cause | found⟩
  · exact .error cause
  · have hrows :
        (Json.arr found).render = "[" ++ ",".intercalate (found.map Json.render) ++ "]" := by
      rw [Json.render, Json.bracket, Json.renderItems_eq_map]
    show Tells (.ok found) ⟨200, _, (Json.arr found).render, none⟩
    rw [hrows]
    exact .rows found

theorem respond_head (s : Store)
    (h : Route.ofPath? (Target.ofText target).path = some (.list entity)) :
    (s.respond "HEAD" target).2 = { (s.respond "GET" target).2 with body := "" } := by
  rw [respond_get s h, respond]
  dsimp only
  rw [h]
  dsimp only
  rw [if_neg (by decide), if_pos rfl, get]
  rcases s.answerList entity (Target.ofText target).query with ⟨events, response⟩
  rfl

theorem told_of_asks (s : Store)
    (h : Route.ofPath? (Target.ofText target).path = some (.list entity))
    (hasks : Form.Asks (Form.decode (Target.ofText target).query) r) : s.Told entity r target :=
  ⟨by rw [respond_get s h]; exact tells_answerList hasks s, respond_head s h⟩

theorem ofPath?_target (entity : Entity) (hhash : '#' ∉ query.toList) :
    Route.ofPath? (Target.ofText (entity.target query)).path = some (.list entity) := by
  rw [Target.ofText_target entity hhash]
  exact Route.ofPath?_name entity

/-- A query part that writes pairs holds them as the query part of a target. -/
theorem asks_target {pairs : List (String × String)} (entity : Entity) (hhash : '#' ∉ query.toList)
    (hwrites : Form.Writes query pairs) (hasks : Form.Asks pairs r) :
    Form.Asks (Form.decode (Target.ofText (entity.target query)).query) r := by
  rwa [Target.ofText_target entity hhash, Form.decode_of_writes hwrites]

theorem told_of_writes {pairs : List (String × String)} (s : Store) (entity : Entity)
    (hhash : '#' ∉ query.toList) (hwrites : Form.Writes query pairs) (hasks : Form.Asks pairs r) :
    s.Told entity r (entity.target query) :=
  told_of_asks s (ofPath?_target entity hhash) (asks_target entity hhash hwrites hasks)

/-- The two ways to a list agree, in every store and for every request. It is told however a target
asks for it, in particular whichever spelling and order its pairs have and whatever stands between
them, and there is a target that does ask for it. -/
theorem respond_agrees (s : Store) (entity : Entity) (r : ListRequest) :
    (∀ target, Route.ofPath? (Target.ofText target).path = some (.list entity) →
      Form.Asks (Form.decode (Target.ofText target).query) r → s.Told entity r target) ∧
    (∀ query pairs, '#' ∉ query.toList → Form.Writes query pairs → Form.Asks pairs r →
      s.Told entity r (entity.target query)) ∧
    Form.decode (Form.asking r) = [("filterBy", r.filterBy), ("sortBy", r.sortBy)] ∧
      s.Told entity r (entity.target (Form.asking r)) := by
  have hwrites := Form.writes_asking r
  refine ⟨fun target => told_of_asks s, fun query pairs => told_of_writes s entity, ?_, ?_⟩
  · exact Form.decode_of_writes hwrites
  · exact told_of_writes s entity (Form.hash_not_mem_asking r) hwrites (Form.asks_asking r)

/-- The order stands in front of the filter, a name that does not matter between them, and some
characters are encoded. -/
theorem respond_agrees_mixed :
    Form.decode (Target.ofText "/boardgames?sortBy=price%2Edesc&page=2&filterBy=name.+%61").query
      = [("sortBy", "price.desc"), ("page", "2"), ("filterBy", "name. a")] ∧
    (reached [.seed]).Told .boardgames ⟨"name. a", "price.desc"⟩
      "/boardgames?sortBy=price%2Edesc&page=2&filterBy=name.+%61" := by
  have hpairs : Form.decode
      (Target.ofText "/boardgames?sortBy=price%2Edesc&page=2&filterBy=name.+%61").query
        = [("sortBy", "price.desc"), ("page", "2"), ("filterBy", "name. a")] := by decide +kernel
  refine ⟨hpairs, (respond_agrees _ _ _).1 _ (by decide +kernel) ?_⟩
  rw [hpairs]
  exact ⟨.inr ⟨[("sortBy", "price.desc"), ("page", "2")], [], rfl, by decide, by decide⟩,
    .inr ⟨[], [("page", "2"), ("filterBy", "name. a")], rfl, by decide, by decide⟩⟩

end Store

end Listing
