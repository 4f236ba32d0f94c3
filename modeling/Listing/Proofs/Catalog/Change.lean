import Listing.Proofs.Catalog.Store

/-!
# What a change does

`Store.Refuses s c` says why the store refuses a change: its table is missing, its price is no
number, or its key is taken. `Change.Does c s s'` says what a change that is made does to the rows.
There is no third case (`apply_cases`), and a change for one entity leaves the table of the other
(`same_of_apply`).
-/

set_option autoImplicit false

namespace Listing

namespace Store

/-- The games that are stored, none if their table is missing. -/
def gameRows (s : Store) : List Boardgame := s.boardgames.getD []

/-- The offers that are stored, none if their table is missing. -/
def offerRows (s : Store) : List Offer := s.offers.getD []

/-- Why a change is not made: its table is missing, its price is no number, or its key is taken. -/
def Refuses (s : Store) : Change → Prop
  | .createTables | .seed => False
  | .drop entity => s.hasTable entity = false
  | .insertBoardgame id _ _ _ price =>
    s.boardgames = none ∨ price = none ∨ ∃ g ∈ s.gameRows, g.id = id
  | .insertOffer uuid _ _ price => s.offers = none ∨ price = none ∨ ∃ o ∈ s.offerRows, o.uuid = uuid
  | .deleteBoardgame _ => s.boardgames = none
  | .deleteOffer _ => s.offers = none

/-- The table of an entity is the same in both stores. -/
def SameTable (s s' : Store) : Entity → Prop
  | .boardgames => s'.boardgames = s.boardgames
  | .offers => s'.offers = s.offers

theorem SameTable.refl (s : Store) (entity : Entity) : SameTable s s entity := by
  cases entity <;> rfl

end Store

namespace Change

/-- The entity a change is for, if it is for one alone. -/
def entity? : Change → Option Entity
  | .createTables | .seed => none
  | .drop entity => some entity
  | .insertBoardgame .. | .deleteBoardgame _ => some .boardgames
  | .insertOffer .. | .deleteOffer _ => some .offers

/-- What a change that is made does to the rows. -/
def Does (s s' : Store) : Change → Prop
  | .createTables => s'.boardgames = some s.gameRows ∧ s'.offers = some s.offerRows
  | .seed => (∃ games, s'.boardgames = some games ∧ ∀ g ∈ s.gameRows, g ∈ games) ∧
      ∃ offers, s'.offers = some offers ∧ ∀ o ∈ s.offerRows, o ∈ offers
  | .drop entity => s'.hasTable entity = false
  | .insertBoardgame id name publisher playerNumber price => ∃ x, price = some x ∧
      ∀ g, g ∈ s'.gameRows ↔ g = ⟨id, name, publisher, playerNumber, x.unsignedZero⟩ ∨
        g ∈ s.gameRows
  | .insertOffer uuid kind name price => ∃ x, price = some x ∧
      ∀ o, o ∈ s'.offerRows ↔ o = ⟨uuid, kind, name, x.unsignedZero⟩ ∨ o ∈ s.offerRows
  | .deleteBoardgame id => ∀ g, g ∈ s'.gameRows ↔ g ∈ s.gameRows ∧ g.id ≠ id
  | .deleteOffer uuid => ∀ o, o ∈ s'.offerRows ↔ o ∈ s.offerRows ∧ o.uuid ≠ uuid

end Change

/-! ## Tables -/

namespace Table

variable {α : Type} [Record α]

/-- To add a row with a price fails, or places the row. -/
theorem insertPriced_cases (row : Number.Binary64 → α) {key : Value}
    (hkey : ∀ x, Record.key (row x) = key) (table : Option (List α)) (entity : String)
    (price : Option Number.Binary64) :
    ((table = none ∨ price = none ∨ ∃ r ∈ table.getD [], Record.key r = key) ∧
      ∃ cause, (change table fun rows => do
        insert (row (← Store.storedPrice entity price)) rows) = .error cause) ∨
    (¬ (table = none ∨ price = none ∨ ∃ r ∈ table.getD [], Record.key r = key) ∧
      ∃ x, price = some x ∧ (change table fun rows => do
        insert (row (← Store.storedPrice entity price)) rows)
          = .ok (some (place (row x.unsignedZero) (table.getD [])))) := by
  cases table with
  | none => exact .inl ⟨.inl rfl, _, rfl⟩
  | some rows =>
    cases price with
    | none => exact .inl ⟨.inr (.inl rfl), _, rfl⟩
    | some x =>
      have hprice : Store.storedPrice entity (some x) = .ok x.unsignedZero := rfl
      cases h : hasKey key rows with
      | true =>
        obtain ⟨r, hr, hrkey⟩ := List.any_eq_true.1 h
        refine .inl ⟨.inr (.inr ⟨r, hr, of_decide_eq_true hrkey⟩), ?_⟩
        simp [change, hprice, bind, Except.bind, insert, hkey, h, Except.map]
      | false =>
        have hfree := hasKey_eq_false_iff.1 h
        refine .inr ⟨?_, x, rfl, ?_⟩
        · rintro (h | h | ⟨r, hr, hrkey⟩)
          · cases h
          · cases h
          · exact hfree r hr hrkey
        · simp [change, hprice, bind, Except.bind, insert, hkey, h, Except.map]

theorem sublist_place (row : α) (rows : List α) : rows.Sublist (place row rows) := by
  induction rows with
  | nil => exact List.nil_sublist _
  | cons r rows ih =>
    rw [place]
    split
    · exact List.sublist_cons_self _ _
    · exact ih.cons_cons r

theorem sublist_insertNew (rows : List α) (row : α) : rows.Sublist (insertNew rows row) := by
  unfold insertNew insert
  split
  · exact List.Sublist.refl _
  · exact sublist_place row rows

/-- Rows that are offered to a table leave those that are there, in their order. -/
theorem sublist_foldl_insertNew (rows added : List α) :
    rows.Sublist (added.foldl insertNew rows) := by
  induction added generalizing rows with
  | nil => exact List.Sublist.refl _
  | cons row added ih => exact (sublist_insertNew rows row).trans (ih _)

end Table

/-! ## Changes -/

theorem Boardgame.key_eq_iff {g : Boardgame} {id : Int} : Record.key g = .integer id ↔ g.id = id :=
  ⟨Value.integer.inj, congrArg Value.integer⟩

theorem Offer.key_eq_iff {o : Offer} {uuid : String} : Record.key o = .text uuid ↔ o.uuid = uuid :=
  ⟨Value.text.inj, congrArg Value.text⟩

namespace Store

variable {s s' : Store} {c : Change}

/-- A change is refused for one of the reasons there are, or it is made and does what it says. -/
theorem apply_cases (s : Store) (c : Change) :
    (s.Refuses c ∧ ∃ cause, s.apply c = .error cause) ∨
      (¬ s.Refuses c ∧ ∃ s', s.apply c = .ok s' ∧ c.Does s s') := by
  obtain ⟨boardgames, offers⟩ := s
  cases c with
  | createTables => exact .inr ⟨id, _, rfl, rfl, rfl⟩
  | seed =>
    exact .inr ⟨id, _, rfl, ⟨_, rfl, fun _ => (Table.sublist_foldl_insertNew _ _).mem⟩,
      _, rfl, fun _ => (Table.sublist_foldl_insertNew _ _).mem⟩
  | drop entity =>
    cases entity with
    | boardgames =>
      cases boardgames with
      | none => exact .inl ⟨rfl, _, rfl⟩
      | some rows => exact .inr ⟨by simp [Refuses, hasTable], _, rfl, rfl⟩
    | offers =>
      cases offers with
      | none => exact .inl ⟨rfl, _, rfl⟩
      | some rows => exact .inr ⟨by simp [Refuses, hasTable], _, rfl, rfl⟩
  | insertBoardgame id name publisher playerNumber price =>
    have hinsert := Table.insertPriced_cases (Boardgame.mk id name publisher playerNumber)
      (fun x => (rfl : _ = Value.integer id)) boardgames "boardgames" price
    simp only [Boardgame.key_eq_iff] at hinsert
    rcases hinsert with ⟨hrefused, cause, herror⟩ | ⟨hfree, x, rfl, hok⟩
    · refine .inl ⟨hrefused, cause, ?_⟩
      rw [apply, herror]
      rfl
    · let g : Boardgame := ⟨id, name, publisher, playerNumber, x.unsignedZero⟩
      refine .inr ⟨hfree, ⟨some (Table.place g (boardgames.getD [])), offers⟩, ?_, x, rfl,
        fun _ => Table.mem_place_iff⟩
      rw [apply, hok]
      rfl
  | insertOffer uuid kind name price =>
    have hinsert := Table.insertPriced_cases (Offer.mk uuid kind name)
      (fun x => (rfl : _ = Value.text uuid)) offers "offers" price
    simp only [Offer.key_eq_iff] at hinsert
    rcases hinsert with ⟨hrefused, cause, herror⟩ | ⟨hfree, x, rfl, hok⟩
    · refine .inl ⟨hrefused, cause, ?_⟩
      rw [apply, herror]
      rfl
    · let o : Offer := ⟨uuid, kind, name, x.unsignedZero⟩
      refine .inr ⟨hfree, ⟨boardgames, some (Table.place o (offers.getD []))⟩, ?_, x, rfl,
        fun _ => Table.mem_place_iff⟩
      rw [apply, hok]
      rfl
  | deleteBoardgame id =>
    cases boardgames with
    | none => exact .inl ⟨rfl, _, rfl⟩
    | some rows =>
      refine .inr ⟨by simp [Refuses], _, rfl, fun g => ?_⟩
      simp [gameRows, Table.erase, Boardgame.key_eq_iff]
  | deleteOffer uuid =>
    cases offers with
    | none => exact .inl ⟨rfl, _, rfl⟩
    | some rows =>
      refine .inr ⟨by simp [Refuses], _, rfl, fun o => ?_⟩
      simp [offerRows, Table.erase, Offer.key_eq_iff]

/-- A change for one entity leaves the table of the other. -/
theorem same_of_apply {entity other : Entity} (h : s.apply c = .ok s')
    (hc : c.entity? = some entity) (hne : other ≠ entity) : SameTable s s' other := by
  have hoffers : ∀ table, entity = .boardgames →
      SameTable s { s with boardgames := table } other := by
    rintro table rfl
    cases other with
    | boardgames => exact absurd rfl hne
    | offers => rfl
  have hgames : ∀ table, entity = .offers → SameTable s { s with offers := table } other := by
    rintro table rfl
    cases other with
    | boardgames => rfl
    | offers => exact absurd rfl hne
  cases c with
  | createTables => cases hc
  | seed => cases hc
  | drop dropped =>
    obtain rfl := Option.some.inj hc
    cases dropped with
    | boardgames =>
      obtain ⟨table, -, hs⟩ := bind_eq_ok_iff.1 h
      cases hs
      exact hoffers none rfl
    | offers =>
      obtain ⟨table, -, hs⟩ := bind_eq_ok_iff.1 h
      cases hs
      exact hgames none rfl
  | insertBoardgame | deleteBoardgame =>
    obtain ⟨table, -, hs⟩ := bind_eq_ok_iff.1 h
    cases hs
    exact hoffers table (Option.some.inj hc).symm
  | insertOffer | deleteOffer =>
    obtain ⟨table, -, hs⟩ := bind_eq_ok_iff.1 h
    cases hs
    exact hgames table (Option.some.inj hc).symm

end Store

end Listing
