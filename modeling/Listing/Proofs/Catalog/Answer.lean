import Listing.Proofs.Catalog.Meaning
import Listing.Proofs.Catalog.Store

/-!
# Listing the catalogue means what it says

In every store that is reached from the empty one, a request that compiles lists just the stored
rows that satisfy its filter, each once, in its order (`list_isAnswer`). Games that the order does
not tell apart stand by id, offers as they were inserted. A filter by text looks at the text before
its first NUL character only: what stands behind it is not found (`text_behind_nul_not_found`).
-/

set_option autoImplicit false

namespace Listing

open Number

/-! ## The two tables -/

theorem fields_boardgame : (Record.schema Boardgame).fields =
    [⟨"id", .integer⟩, ⟨"name", .string⟩, ⟨"publisher", .string⟩, ⟨"player_number", .integer⟩,
      ⟨"price", .float⟩, ⟨"tags", .other⟩] := by
  decide

theorem fields_offer : (Record.schema Offer).fields =
    [⟨"uuid", .string⟩, ⟨"type", .string⟩, ⟨"name", .string⟩, ⟨"price", .float⟩] := by
  decide

instance : Record.Typed Boardgame where
  entity_plain := by decide
  fields_plain := by decide
  distinct := Schema.distinct_ofFields _ _
  column := by decide
  typed g v d hd hv := by
    simp only [fields_boardgame, List.mem_cons, List.not_mem_nil, or_false] at hd
    rcases hd with rfl | rfl | rfl | rfl | rfl | rfl
    · obtain rfl := Option.some.inj hv
      exact .integer g.id
    · obtain rfl := Option.some.inj hv
      exact .text g.name
    · obtain rfl := Option.some.inj hv
      exact .text g.publisher
    · obtain rfl := Option.some.inj hv
      exact .integer g.playerNumber
    · obtain rfl := Option.some.inj hv
      exact .float g.price
    · cases hv

instance : Record.Typed Offer where
  entity_plain := by decide
  fields_plain := by decide
  distinct := Schema.distinct_ofFields _ _
  column := by decide
  typed o v d hd hv := by
    simp only [fields_offer, List.mem_cons, List.not_mem_nil, or_false] at hd
    rcases hd with rfl | rfl | rfl | rfl
    · obtain rfl := Option.some.inj hv
      exact .text o.uuid
    · obtain rfl := Option.some.inj hv
      exact .text o.kind
    · obtain rfl := Option.some.inj hv
      exact .text o.name
    · obtain rfl := Option.some.inj hv
      exact .float o.price

/-! ## Answers -/

/-- Whatever changes led to the store, a request that compiles is answered with just the rows that
satisfy its filter, in its order. Where the order says nothing, games stand by id and offers in the
order in which they were inserted, those of a seeding one after the other. -/
theorem list_isAnswer (changes : List Change) (r : ListRequest) (plan : Plan)
    (hfits : plan.PatternFits) :
    (∀ games, (Store.reached changes).boardgames = some games →
      (ListRequest.compile Boardgame.schema r).2 = .ok plan →
      ∃ found, (listTable (Store.reached changes).boardgames r).2 = .ok found ∧
        IsAnswer r (fun g h => g.id < h.id) games found) ∧
    ∀ offers, (Store.reached changes).offers = some offers →
      (ListRequest.compile Offer.schema r).2 = .ok plan →
      ∃ found, (listTable (Store.reached changes).offers r).2 = .ok found ∧
        IsAnswer r (Store.Precedes (changes.flatMap Change.single)) offers found := by
  constructor
  · intro games hgames hcompile
    have hsorted := Store.sorted_boardgames changes
    rw [hgames] at hsorted ⊢
    have hnodup : games.Nodup := hsorted.imp fun hlt heq => by
      rw [heq] at hlt
      exact Int.lt_irrefl _ hlt
    exact listTable_isAnswer hcompile hfits hnodup hsorted
  · intro offers hoffers hcompile
    have harrived := Store.arrived_offers changes
    rw [hoffers] at harrived ⊢
    have hnodup : offers.Nodup := harrived.imp fun hlt heq => by
      rw [heq] at hlt
      exact Store.Precedes.asymm hlt hlt
    exact listTable_isAnswer hcompile hfits hnodup harrived

/-- The games of a seeded store whose name has an `A` in it, the dearest first. -/
theorem list_isAnswer_seeded : ∃ found,
    (listTable (Store.reached [.seed]).boardgames ⟨"name.A", "price.desc"⟩).2 = .ok found ∧
      IsAnswer ⟨"name.A", "price.desc"⟩ (fun g h => g.id < h.id) Boardgame.demo found := by
  have hcompile : (ListRequest.compile Boardgame.schema ⟨"name.A", "price.desc"⟩).2 = .ok
      ⟨some ⟨⟨"name", .string⟩, .contains, "A"⟩, some ⟨⟨"price", .float⟩, .desc⟩⟩ := rfl
  refine (list_isAnswer [.seed] _ _ ?_).1 Boardgame.demo ?_ hcompile
  · rintro p ⟨rfl⟩ -
    decide
  · rfl

/-- A game whose name has a NUL character in it is stored, and a filter by what stands behind the
NUL is accepted; yet the game is not listed. -/
theorem text_behind_nul_not_found :
    let store := Store.reached [.createTables,
      .insertBoardgame 1 "a\x00b" "p" 2 (some ⟨false, 0, Nat.zero_le _⟩)]
    (∃ g ∈ store.boardgames.getD [], ∃ pre post, g.name = pre ++ "b" ++ post) ∧
      (∃ plan, (ListRequest.compile Boardgame.schema ⟨"name.b", ""⟩).2 = .ok plan ∧
        plan.PatternFits) ∧
      (listTable store.boardgames ⟨"name.b", ""⟩).2 = .ok [] := by
  intro store
  let g : Boardgame := ⟨1, "a\x00b", "p", 2, ⟨false, 0, Nat.zero_le _⟩⟩
  have hstore : store.boardgames = some [g] := rfl
  have hcompile : (ListRequest.compile Boardgame.schema ⟨"name.b", ""⟩).2
      = .ok ⟨some ⟨⟨"name", .string⟩, .contains, "b"⟩, none⟩ := rfl
  have hfits : Plan.PatternFits ⟨some ⟨⟨"name", .string⟩, .contains, "b"⟩, none⟩ := by
    rintro p ⟨rfl⟩ -
    decide
  have hrows : Plan.rows ⟨some ⟨⟨"name", .string⟩, .contains, "b"⟩, none⟩ [g] = [] := by
    have hfilter : [g].filter (Statement.meets [.like "name"] [.text "%b%"]) = [] := by decide
    change ([g].filter (Statement.meets [.like "name"] [.text "%b%"])).mergeSort _ = []
    rw [hfilter, List.mergeSort_nil]
  refine ⟨⟨g, by simp [hstore], "a\x00", "", by decide⟩, ⟨_, hcompile, hfits⟩, ?_⟩
  rw [hstore, listTable_eq hcompile hfits, hrows]

end Listing
