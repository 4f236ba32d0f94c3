import Listing.Proofs.Catalog.Answer
import Listing.Proofs.Catalog.Change

/-!
# What seeding adds

Seeding offers the demo rows to the two tables. Of the rows offered a table takes those whose keys
are free in it (`foldl_insertNew_eq`), so it becomes the union of what it had and of these
(`IsUnion`): nothing that was there is lost or changed, a row under the key of a demo row stays as
it is, and a second seeding finds every key taken. `seed_conservative` says so of every store.
-/

set_option autoImplicit false

namespace Listing

/-! ## Rows offered to a table -/

namespace Table

variable {α : Type} [Record α] {rows added before offered after : List α} {row r : α}

/-- Of some rows those whose keys are free in a table. -/
def fresh (rows added : List α) : List α := added.filter fun row => !hasKey (Record.key row) rows

/-- A table after some rows were offered to it: it has the rows it had, in their order, and those
offered whose keys were free, each as the one row of its key, and no others. -/
structure IsUnion (before offered after : List α) : Prop where
  kept : before.Sublist after
  added : ∀ row ∈ offered, (∀ r ∈ before, Record.key r ≠ Record.key row) →
    after.filter (fun r => Record.key r = Record.key row) = [row]
  only : after.Perm (before ++ fresh before offered)

theorem mem_fresh_iff :
    row ∈ fresh rows added ↔ row ∈ added ∧ ∀ r ∈ rows, Record.key r ≠ Record.key row := by
  rw [fresh, List.mem_filter, Bool.not_eq_true', hasKey_eq_false_iff]

theorem insertNew_of_taken (h : hasKey (Record.key row) rows = true) :
    insertNew rows row = rows := by
  rw [insertNew, insert, if_pos h]
  rfl

theorem insertNew_of_free (h : hasKey (Record.key row) rows = false) :
    insertNew rows row = place row rows := by
  rw [insertNew, insert, if_neg (by simp [h])]
  rfl

theorem hasKey_place (key : Value) (row : α) (rows : List α) :
    hasKey key (place row rows) = (decide (Record.key row = key) || hasKey key rows) := by
  rw [hasKey, (place_perm row rows).any_eq, List.any_cons, hasKey]

/-- Placing a row under another key leaves the keys of some rows as free as they were. -/
theorem fresh_place (h : ∀ r ∈ added, Record.key row ≠ Record.key r) :
    fresh (place row rows) added = fresh rows added := by
  refine List.filter_congr fun r hr => ?_
  rw [hasKey_place, decide_eq_false (h r hr), Bool.false_or]

/-- To offer rows under distinct keys is to place those whose keys are free. -/
theorem foldl_insertNew_eq (hkeys : (added.map Record.key).Nodup) :
    added.foldl insertNew rows =
      (fresh rows added).foldl (fun rows row => place row rows) rows := by
  induction added generalizing rows with
  | nil => rfl
  | cons row added ih =>
    obtain ⟨hrow, hkeys⟩ := List.nodup_cons.1 hkeys
    cases h : hasKey (Record.key row) rows with
    | true =>
      have hfresh : fresh rows (row :: added) = fresh rows added := by simp [fresh, h]
      rw [List.foldl_cons, insertNew_of_taken h, ih hkeys, hfresh]
    | false =>
      have hfresh : fresh rows (row :: added) = row :: fresh rows added := by simp [fresh, h]
      have hother : ∀ r ∈ added, Record.key row ≠ Record.key r := fun r hr heq =>
        hrow (heq ▸ List.mem_map_of_mem hr)
      rw [List.foldl_cons, insertNew_of_free h, ih hkeys, fresh_place hother, hfresh,
        List.foldl_cons]

theorem foldl_place_perm (rows added : List α) :
    (added.foldl (fun rows row => place row rows) rows).Perm (rows ++ added) := by
  induction added generalizing rows with
  | nil => simp
  | cons row added ih =>
    have hplace : (place row rows ++ added).Perm (row :: rows ++ added) :=
      (place_perm row rows).append_right added
    exact ((ih _).trans hplace).trans List.perm_middle.symm

/-- Of rows under distinct keys each is the one of its key. -/
theorem filter_key_of_nodup (hkeys : (rows.map Record.key).Nodup) (h : row ∈ rows) :
    rows.filter (fun r => Record.key r = Record.key row) = [row] := by
  induction rows with
  | nil => cases h
  | cons r rows ih =>
    obtain ⟨hr, hkeys⟩ := List.nodup_cons.1 hkeys
    rcases List.mem_cons.1 h with rfl | h
    · have hnone : rows.filter (fun r => Record.key r = Record.key row) = [] := by
        rw [List.filter_eq_nil_iff]
        intro r' hr' heq
        exact hr (of_decide_eq_true heq ▸ List.mem_map_of_mem hr')
      rw [List.filter_cons_of_pos (by simp), hnone]
    · have hne : Record.key r ≠ Record.key row := fun heq => hr (heq ▸ List.mem_map_of_mem h)
      rw [List.filter_cons_of_neg (by simpa using hne), ih hkeys h]

/-- Rows under distinct keys that are offered to a table make it the union. -/
theorem isUnion_foldl (hkeys : (offered.map Record.key).Nodup) (before : List α) :
    IsUnion before offered (offered.foldl insertNew before) := by
  have hperm : (offered.foldl insertNew before).Perm (before ++ fresh before offered) := by
    rw [foldl_insertNew_eq hkeys]
    exact foldl_place_perm _ _
  refine ⟨sublist_foldl_insertNew before offered, fun row hrow hfree => ?_, hperm⟩
  have hbefore : before.filter (fun r => Record.key r = Record.key row) = [] := by
    rw [List.filter_eq_nil_iff]
    intro r hr heq
    exact hfree r hr (of_decide_eq_true heq)
  have hfresh : (fresh before offered).filter (fun r => Record.key r = Record.key row) = [row] :=
    filter_key_of_nodup (hkeys.sublist (List.filter_sublist.map _)) (mem_fresh_iff.2 ⟨hrow, hfree⟩)
  have hfilter := hperm.filter fun r => Record.key r = Record.key row
  rw [List.filter_append, hbefore, hfresh, List.nil_append] at hfilter
  exact List.perm_singleton.1 hfilter

/-- After rows were offered to a table none of their keys is free. -/
theorem fresh_foldl_insertNew (rows : List α) (hkeys : (added.map Record.key).Nodup) :
    fresh (added.foldl insertNew rows) added = [] := by
  have hunion := isUnion_foldl hkeys rows
  rw [List.eq_nil_iff_forall_not_mem]
  intro row hrow
  obtain ⟨hadded, hfree⟩ := mem_fresh_iff.1 hrow
  have hbefore : ∀ r ∈ rows, Record.key r ≠ Record.key row :=
    fun r hr => hfree r (hunion.kept.mem hr)
  have hmem : row ∈ added.foldl insertNew rows :=
    hunion.only.mem_iff.2 (List.mem_append_right _ (mem_fresh_iff.2 ⟨hadded, hbefore⟩))
  exact hfree row hmem rfl

/-- Rows that are offered twice are taken once. -/
theorem foldl_insertNew_twice (rows : List α) (hkeys : (added.map Record.key).Nodup) :
    added.foldl insertNew (added.foldl insertNew rows) = added.foldl insertNew rows := by
  rw [foldl_insertNew_eq hkeys, fresh_foldl_insertNew rows hkeys, List.foldl_nil]

end Table

/-! ## Seeding -/

theorem Boardgame.keys_demo : (Boardgame.demo.map Record.key).Nodup := by decide

theorem Offer.keys_demo : (Offer.demo.map Record.key).Nodup := by decide

namespace Store

theorem foldl_place_offers (rows added : List Offer) :
    added.foldl (fun rows row => Table.place row rows) rows = rows ++ added := by
  induction added generalizing rows with
  | nil => simp
  | cons o added ih =>
    rw [List.foldl_cons, ih, place_offer, List.append_assoc, List.singleton_append]

/-- What a seeding makes of a store: both tables are there, each the union of the rows it had and
the demo rows, and the offers added stand behind the earlier ones as they are declared, in the store
as in a list of it. -/
structure Seeded (s s' : Store) : Prop where
  boardgames : ∃ games, s'.boardgames = some games ∧ Table.IsUnion s.gameRows Boardgame.demo games
  offers : ∃ offers, s'.offers = some offers ∧ Table.IsUnion s.offerRows Offer.demo offers ∧
    offers = s.offerRows ++ Table.fresh s.offerRows Offer.demo
  listed : (s'.list .offers ⟨"", ""⟩).2
    = .ok ((s.offerRows ++ Table.fresh s.offerRows Offer.demo).map Record.toJson)

theorem seeded (s : Store) : Seeded s s.seed := by
  have hoffers : Offer.demo.foldl Table.insertNew s.offerRows
      = s.offerRows ++ Table.fresh s.offerRows Offer.demo := by
    rw [Table.foldl_insertNew_eq Offer.keys_demo, foldl_place_offers]
  refine ⟨⟨_, rfl, Table.isUnion_foldl Boardgame.keys_demo _⟩,
    ⟨_, rfl, Table.isUnion_foldl Offer.keys_demo _, hoffers⟩, ?_⟩
  rw [← hoffers, list, asJson, seed, listTable_all]
  rfl

theorem seed_seed (s : Store) : s.seed.seed = s.seed := by
  have hgames := Table.foldl_insertNew_twice s.gameRows Boardgame.keys_demo
  have hoffers := Table.foldl_insertNew_twice s.offerRows Offer.keys_demo
  simp only [seed, Option.getD_some]
  exact congrArg₂ (fun games offers => Store.mk (some games) (some offers)) hgames hoffers

/-- A seeding always succeeds and adds to both tables the demo rows whose keys are free, whatever
the store holds; a second one changes nothing. -/
theorem seed_conservative (s : Store) :
    ∃ s', s.apply .seed = .ok s' ∧ Seeded s s' ∧ s'.apply .seed = .ok s' := by
  refine ⟨s.seed, rfl, seeded s, ?_⟩
  rw [apply, seed_seed]

end Store

end Listing
