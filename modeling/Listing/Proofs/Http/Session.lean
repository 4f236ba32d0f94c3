import Listing.Http.Session
import Listing.Proofs.Catalog.Answer
import Listing.Proofs.Catalog.Change

/-!
# What a session keeps

A session is any run of changes, lists and requests on the empty store. Its changes alone decide the
store it leads to (`actAll_eq_reached`). `Consistent` says what holds of the tables after every
session, and `StepSound` what one more step does: a step that is answered with an error, and one
that only reads, leaves the store as it is. `session_sound` says both of every session.
-/

set_option autoImplicit false

namespace Listing

/-- The changes among the steps of a session. -/
def Action.changes : Action → List Change
  | .change c => [c]
  | .list .. | .request .. => []

/-- The entity a step is for, if it is for one alone. -/
def Action.entity? : Action → Option Entity
  | .change c => c.entity?
  | .list entity _ => some entity
  | .request .. => none

/-- A reply that tells of an error. -/
def Reply.IsError : Reply → Prop
  | .refused _ | .failed .. => True
  | .response _ r => 400 ≤ r.status
  | .done | .rows .. => False

namespace Store

/-- The single changes of a session, those of a seeding one after the other. -/
def history (steps : List Action) : List Change :=
  (steps.flatMap Action.changes).flatMap Change.single

/-- The tables after the steps of a session: keys are unique, and a list without a filter and an
order gives the games by id and the offers in the order in which they were inserted. -/
structure Consistent (steps : List Action) (s : Store) : Prop where
  ids_distinct : s.gameRows.Pairwise fun g h => g.id ≠ h.id
  uuids_distinct : s.offerRows.Pairwise fun o p => o.uuid ≠ p.uuid
  games_listed : ∀ games, s.boardgames = some games →
    (s.list .boardgames ⟨"", ""⟩).2 = .ok (games.map Record.toJson) ∧
      games.Pairwise fun g h => g.id < h.id
  offers_listed : ∀ offers, s.offers = some offers →
    (s.list .offers ⟨"", ""⟩).2 = .ok (offers.map Record.toJson) ∧
      offers.Pairwise (Precedes (history steps))

/-- What a step does to the store. A change is refused for one of its reasons, or made. -/
structure StepSound (s : Store) (a : Action) : Prop where
  failed : (s.reply a).IsError → s.act a = s
  reading : (∀ c, a ≠ .change c) → s.act a = s
  refused : ∀ c, a = .change c → s.Refuses c → ∃ cause, s.reply a = .refused cause
  made : ∀ c, a = .change c → ¬ s.Refuses c → s.reply a = .done ∧ c.Does s (s.act a)
  frame : ∀ entity other, a.entity? = some entity → other ≠ entity → SameTable s (s.act a) other

/-! ## Runs -/

variable {s : Store}

theorem act_eq_foldl (s : Store) (a : Action) : s.act a = a.changes.foldl after s := by
  cases a <;> rfl

/-- A session leads where its changes lead. -/
theorem actAll_eq_reached (steps : List Action) :
    Store.empty.actAll steps = reached (steps.flatMap Action.changes) := by
  have hact : act = fun s a => a.changes.foldl after s := funext fun s => funext (act_eq_foldl s)
  rw [actAll, reached, List.foldl_flatMap, hact]

theorem replies_append (s : Store) (steps more : List Action) :
    s.replies (steps ++ more) = s.replies steps ++ (s.actAll steps).replies more := by
  induction steps generalizing s with
  | nil => rfl
  | cons a steps ih => exact congrArg (s.reply a :: ·) (ih (s.act a))

theorem consistent (steps : List Action) : Consistent steps (Store.empty.actAll steps) := by
  have hkeys := keys_nodup (steps.flatMap Action.changes)
  have hsorted := sorted_boardgames (steps.flatMap Action.changes)
  have harrived := arrived_offers (steps.flatMap Action.changes)
  rw [← actAll_eq_reached] at hkeys hsorted harrived
  refine ⟨?_, ?_, fun games hgames => ⟨?_, ?_⟩, fun offers hoffers => ⟨?_, ?_⟩⟩
  · exact (List.pairwise_map.1 hkeys.1).imp fun h hid => h (congrArg Value.integer hid)
  · exact (List.pairwise_map.1 hkeys.2).imp fun h huuid => h (congrArg Value.text huuid)
  · rw [list, hgames, asJson, listTable_all]
    rfl
  · rwa [hgames] at hsorted
  · rw [list, hoffers, asJson, listTable_all]
    rfl
  · rwa [hoffers] at harrived

/-! ## Steps -/

theorem change_sound (s : Store) (c : Change) : StepSound s (.change c) := by
  have hact : s.act (.change c) = (s.apply c).toOption.getD s := rfl
  rcases apply_cases s c with ⟨hrefused, cause, herror⟩ | ⟨hfree, s', hok, hdoes⟩
  · have hsame : s.act (.change c) = s := by rw [hact, herror]; rfl
    exact
      { failed := fun _ => hsame
        reading := fun h => absurd rfl (h c)
        refused := fun c' hc _ => by
          cases hc
          exact ⟨cause, by rw [reply, herror]⟩
        made := fun c' hc h => by
          cases hc
          exact absurd hrefused h
        frame := fun _ _ _ _ => by
          rw [hsame]
          exact SameTable.refl s _ }
  · have hmade : s.act (.change c) = s' := by rw [hact, hok]; rfl
    have hdone : s.reply (.change c) = .done := by rw [reply, hok]
    exact
      { failed := fun h => by
          rw [hdone] at h
          cases h
        reading := fun h => absurd rfl (h c)
        refused := fun c' hc h => by
          cases hc
          exact absurd h hfree
        made := fun c' hc _ => by
          cases hc
          exact ⟨hdone, hmade ▸ hdoes⟩
        frame := fun entity other hc hne => hmade ▸ same_of_apply hok hc hne }

/-- A step that is no change leaves the store as it is. -/
theorem reading_sound {a : Action} (h : ∀ c, a ≠ .change c) : StepSound s a := by
  have hsame : s.act a = s := by
    cases a with
    | change c => exact absurd rfl (h c)
    | list => rfl
    | request => rfl
  exact
    { failed := fun _ => hsame
      reading := fun _ => hsame
      refused := fun c hc => absurd hc (h c)
      made := fun c hc => absurd hc (h c)
      frame := fun _ _ _ _ => by
        rw [hsame]
        exact SameTable.refl s _ }

theorem step_sound (s : Store) (a : Action) : StepSound s a := by
  cases a with
  | change c => exact change_sound s c
  | list => exact reading_sound fun c hc => by cases hc
  | request => exact reading_sound fun c hc => by cases hc

/-- Whatever the steps of a session, the tables are consistent, and one more step does what it
should and adds its reply to those given. -/
theorem session_sound (steps : List Action) :
    Consistent steps (Store.empty.actAll steps) ∧ ∀ a,
      StepSound (Store.empty.actAll steps) a ∧
      Store.empty.replies (steps ++ [a])
        = Store.empty.replies steps ++ [(Store.empty.actAll steps).reply a] :=
  ⟨consistent steps, fun a => ⟨step_sound _ a, replies_append _ _ _⟩⟩

end Store

end Listing
