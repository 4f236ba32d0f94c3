import Listing.Catalog.Store
import Mathlib.Data.List.Induction

/-!
# What the store keeps

`Table.Step` says all that a change can do to a table, and `apply_step` that no change does more. So
in every store that is reached from the empty one the games stand in the order of their ids
(`sorted_boardgames`), and the offers in the order in which they were inserted (`arrived_offers`).
-/

set_option autoImplicit false

namespace Listing

/-! ## Tables -/

namespace Table

variable {α : Type} [Record α] {rows : List α} {row r : α} {table table' : Option (List α)}

/-- What a change can do to a table: nothing, to make it, to drop it, to add a row whose key is
free, or to remove a row. -/
inductive Step : Option (List α) → Option (List α) → Prop
  | same (table : Option (List α)) : Step table table
  | create : Step none (some [])
  | drop (table : Option (List α)) : Step table none
  | insert {rows : List α} {row : α} : (∀ r ∈ rows, Record.key r ≠ Record.key row) →
      Step (some rows) (some (place row rows))
  | erase (rows : List α) (key : Value) : Step (some rows) (some (erase key rows))

@[simp] theorem mem_place_iff : r ∈ place row rows ↔ r = row ∨ r ∈ rows := by
  induction rows with
  | nil => simp [place]
  | cons r' rows ih =>
    rw [place]
    split
    · simp
    · simp [ih, or_left_comm]

/-- To place a row is to add it somewhere. -/
theorem place_perm (row : α) (rows : List α) : (place row rows).Perm (row :: rows) := by
  induction rows with
  | nil => exact .refl _
  | cons r rows ih =>
    rw [place]
    split
    · exact .refl _
    · exact (ih.cons r).trans (.swap row r rows)

theorem hasKey_eq_false_iff {key : Value} :
    hasKey key rows = false ↔ ∀ r ∈ rows, Record.key r ≠ key := by
  simp [hasKey]

theorem step_insert {rows' : List α} (h : insert row rows = .ok rows') :
    Step (some rows) (some rows') := by
  unfold insert at h
  split at h
  · cases h
  · rename_i hkey
    cases h
    exact .insert (hasKey_eq_false_iff.1 (Bool.eq_false_iff.2 hkey))

/-- No step gives two rows one key. -/
theorem keys_nodup_step (hstep : Step table table') (h : ((table.getD []).map Record.key).Nodup) :
    ((table'.getD []).map Record.key).Nodup := by
  cases hstep with
  | same => exact h
  | create => exact .nil
  | drop => exact .nil
  | @insert rows row hkey =>
    refine ((place_perm row rows).map Record.key).nodup_iff.2 (List.nodup_cons.2 ⟨?_, h⟩)
    rintro hmem
    obtain ⟨r, hr, heq⟩ := List.mem_map.1 hmem
    exact hkey r hr heq
  | erase rows key => exact h.sublist (List.filter_sublist.map Record.key)

/-- A change of a table that is there is a change of its rows. -/
theorem change_eq_ok_iff {f : List α → Except DatabaseError (List α)} :
    change table f = .ok table' ↔
      ∃ rows rows', table = some rows ∧ f rows = .ok rows' ∧ table' = some rows' := by
  cases table with
  | none => simp [change]
  | some rows => cases h : f rows <;> simp [change, h, Except.map, eq_comm]

end Table

/-! ## Changes -/

theorem bind_eq_ok_iff {ε β γ : Type} {x : Except ε β} {f : β → Except ε γ} {c : γ} :
    (x >>= f) = .ok c ↔ ∃ b, x = .ok b ∧ f b = .ok c := by
  cases x <;> simp [bind, Except.bind]

/-- The changes that seeding makes one by one. -/
def Change.single : Change → List Change
  | .seed => .createTables ::
    ((Boardgame.demo.map fun g => insertBoardgame g.id g.name g.publisher g.playerNumber g.price)
      ++ Offer.demo.map fun o => insertOffer o.uuid o.kind o.name o.price)
  | c => [c]

namespace Store

variable {s s' : Store} {c : Change}

/-- The store that a run of changes leads to from the empty one. -/
def reached (changes : List Change) : Store := changes.foldl after empty

/-- A change takes a step on each table. -/
theorem apply_step (hc : c ≠ .seed) (h : s.apply c = .ok s') :
    Table.Step s.boardgames s'.boardgames ∧ Table.Step s.offers s'.offers := by
  cases c with
  | seed => exact absurd rfl hc
  | createTables =>
    cases h
    constructor
    · cases hb : s.boardgames with
      | none => simpa [createTables, hb] using Table.Step.create
      | some rows => simpa [createTables, hb] using Table.Step.same (some rows)
    · cases ho : s.offers with
      | none => simpa [createTables, ho] using Table.Step.create
      | some rows => simpa [createTables, ho] using Table.Step.same (some rows)
  | drop entity =>
    cases entity with
    | boardgames =>
      obtain ⟨t, ht, hs⟩ := bind_eq_ok_iff.1 h
      cases hs
      exact ⟨.drop _, .same _⟩
    | offers =>
      obtain ⟨t, ht, hs⟩ := bind_eq_ok_iff.1 h
      cases hs
      exact ⟨.same _, .drop _⟩
  | insertBoardgame id name publisher playerNumber price =>
    obtain ⟨t, ht, hs⟩ := bind_eq_ok_iff.1 h
    cases hs
    obtain ⟨rows, rows', hrows, hf, rfl⟩ := Table.change_eq_ok_iff.1 ht
    obtain ⟨x, -, hinsert⟩ := bind_eq_ok_iff.1 hf
    rw [hrows]
    exact ⟨Table.step_insert hinsert, .same _⟩
  | insertOffer uuid kind name price =>
    obtain ⟨t, ht, hs⟩ := bind_eq_ok_iff.1 h
    cases hs
    obtain ⟨rows, rows', hrows, hf, rfl⟩ := Table.change_eq_ok_iff.1 ht
    obtain ⟨x, -, hinsert⟩ := bind_eq_ok_iff.1 hf
    rw [hrows]
    exact ⟨.same _, Table.step_insert hinsert⟩
  | deleteBoardgame id =>
    obtain ⟨t, ht, hs⟩ := bind_eq_ok_iff.1 h
    cases hs
    obtain ⟨rows, rows', hrows, hf, rfl⟩ := Table.change_eq_ok_iff.1 ht
    cases hf
    rw [hrows]
    exact ⟨.erase rows _, .same _⟩
  | deleteOffer uuid =>
    obtain ⟨t, ht, hs⟩ := bind_eq_ok_iff.1 h
    cases hs
    obtain ⟨rows, rows', hrows, hf, rfl⟩ := Table.change_eq_ok_iff.1 ht
    cases hf
    rw [hrows]
    exact ⟨.same _, .erase rows _⟩

theorem after_step (s : Store) (hc : c ≠ .seed) :
    Table.Step s.boardgames (s.after c).boardgames ∧ Table.Step s.offers (s.after c).offers := by
  cases h : s.apply c with
  | error e => simpa [after, h, Except.toOption] using ⟨.same _, .same _⟩
  | ok s' => simpa [after, h, Except.toOption] using apply_step hc h

/-! ## Seeding as single changes -/

theorem unsignedZero_ofDecimal (m : Number.Decimal) :
    (Number.Binary64.ofDecimal false m).unsignedZero = .ofDecimal false m := rfl

theorem after_insertBoardgame {rows : List Boardgame} {offers : Option (List Offer)} {g : Boardgame}
    (hg : g.price.unsignedZero = g.price) :
    after ⟨some rows, offers⟩ (.insertBoardgame g.id g.name g.publisher g.playerNumber g.price)
      = ⟨some (Table.insertNew rows g), offers⟩ := by
  have hprice : storedPrice "boardgames" (some g.price) = .ok g.price := by rw [storedPrice, hg]
  cases h : Table.insert g rows <;>
    simp [after, apply, Table.change, Table.insertNew, hprice, h, bind, Except.bind, Except.map,
      pure, Except.pure, Except.toOption]

theorem after_insertOffer {boardgames : Option (List Boardgame)} {rows : List Offer} {o : Offer}
    (ho : o.price.unsignedZero = o.price) :
    after ⟨boardgames, some rows⟩ (.insertOffer o.uuid o.kind o.name o.price)
      = ⟨boardgames, some (Table.insertNew rows o)⟩ := by
  have hprice : storedPrice "offers" (some o.price) = .ok o.price := by rw [storedPrice, ho]
  cases h : Table.insert o rows <;>
    simp [after, apply, Table.change, Table.insertNew, hprice, h, bind, Except.bind, Except.map,
      pure, Except.pure, Except.toOption]

theorem foldl_insertBoardgame {offers : Option (List Offer)} {games rows : List Boardgame}
    (hg : ∀ g ∈ games, g.price.unsignedZero = g.price) :
    (games.map fun g => Change.insertBoardgame g.id g.name g.publisher g.playerNumber g.price).foldl
      after ⟨some rows, offers⟩ = ⟨some (games.foldl Table.insertNew rows), offers⟩ := by
  induction games generalizing rows with
  | nil => rfl
  | cons g games ih =>
    rw [List.map_cons, List.foldl_cons, after_insertBoardgame (hg g (by simp)),
      ih fun g hmem => hg g (List.mem_cons_of_mem _ hmem)]
    rfl

theorem foldl_insertOffer {boardgames : Option (List Boardgame)} {offers rows : List Offer}
    (ho : ∀ o ∈ offers, o.price.unsignedZero = o.price) :
    (offers.map fun o => Change.insertOffer o.uuid o.kind o.name o.price).foldl
      after ⟨boardgames, some rows⟩ = ⟨boardgames, some (offers.foldl Table.insertNew rows)⟩ := by
  induction offers generalizing rows with
  | nil => rfl
  | cons o offers ih =>
    rw [List.map_cons, List.foldl_cons, after_insertOffer (ho o (by simp)),
      ih fun o hmem => ho o (List.mem_cons_of_mem _ hmem)]
    rfl

/-- A change comes to the same as its single changes. -/
theorem foldl_single (s : Store) (c : Change) : c.single.foldl after s = s.after c := by
  cases c with
  | seed =>
    have hgames : ∀ g ∈ Boardgame.demo, g.price.unsignedZero = g.price := by
      simp [Boardgame.demo, unsignedZero_ofDecimal]
    have hoffers : ∀ o ∈ Offer.demo, o.price.unsignedZero = o.price := by
      simp [Offer.demo, unsignedZero_ofDecimal]
    rw [Change.single, List.foldl_cons, List.foldl_append]
    have hcreate : s.after .createTables
        = ⟨some (s.boardgames.getD []), some (s.offers.getD [])⟩ := rfl
    rw [hcreate, foldl_insertBoardgame hgames, foldl_insertOffer hoffers]
    rfl
  | _ => rfl

theorem seed_not_mem_single (c : Change) : .seed ∉ c.single := by
  cases c <;> simp [Change.single]

theorem reached_flatMap_single (changes : List Change) :
    reached (changes.flatMap Change.single) = reached changes := by
  simp only [reached, List.foldl_flatMap, foldl_single]

theorem reached_concat (changes : List Change) (c : Change) :
    reached (changes ++ [c]) = (reached changes).after c := by
  simp [reached]

/-- What holds of the empty store, and is kept where both tables take a step, holds of every store
that is reached. -/
theorem reached_of_step {P : Store → Prop} (hempty : P empty)
    (hstep : ∀ s s', Table.Step s.boardgames s'.boardgames → Table.Step s.offers s'.offers →
      P s → P s')
    (changes : List Change) : P (reached changes) := by
  rw [← reached_flatMap_single]
  have hseed : .seed ∉ changes.flatMap Change.single := by
    simpa using fun c _ => seed_not_mem_single c
  generalize changes.flatMap Change.single = history at hseed
  induction history using List.reverseRecOn with
  | nil => exact hempty
  | append_singleton history c ih =>
    rw [List.mem_append, not_or, List.mem_singleton] at hseed
    obtain ⟨hgames, hoffers⟩ := after_step (reached history) (Ne.symm hseed.2)
    rw [reached_concat]
    exact hstep _ _ hgames hoffers (ih hseed.1)

/-- In every store that is reached the rows of a table have keys of their own. -/
theorem keys_nodup (changes : List Change) :
    (((reached changes).boardgames.getD []).map Record.key).Nodup ∧
      (((reached changes).offers.getD []).map Record.key).Nodup :=
  reached_of_step (P := fun s => ((s.boardgames.getD []).map Record.key).Nodup ∧
      ((s.offers.getD []).map Record.key).Nodup) ⟨.nil, .nil⟩
    (fun _ _ hgames hoffers h =>
      ⟨Table.keys_nodup_step hgames h.1, Table.keys_nodup_step hoffers h.2⟩) changes

/-! ## Games by id -/

/-- Placing a game with a new id keeps the order of ids. -/
theorem pairwise_place {rows : List Boardgame} {g : Boardgame}
    (h : rows.Pairwise fun a b => a.id < b.id) (hkey : ∀ r ∈ rows, Record.key r ≠ Record.key g) :
    (Table.place g rows).Pairwise fun a b => a.id < b.id := by
  induction rows with
  | nil => simp [Table.place]
  | cons r rows ih =>
    obtain ⟨hr, hrows⟩ := List.pairwise_cons.1 h
    have hne : r.id ≠ g.id := fun heq => hkey r (by simp) (congrArg Value.integer heq)
    rw [Table.place]
    split
    · rename_i hlt
      have hlt : g.id < r.id := of_decide_eq_true hlt
      refine List.pairwise_cons.2 ⟨fun b hb => ?_, h⟩
      rcases List.mem_cons.1 hb with rfl | hb
      · exact hlt
      · exact Int.lt_trans hlt (hr b hb)
    · rename_i hlt
      have hlt : ¬ g.id < r.id := fun h => hlt (decide_eq_true h)
      refine List.pairwise_cons.2 ⟨fun b hb => ?_, ih hrows fun b hb =>
        hkey b (List.mem_cons_of_mem _ hb)⟩
      rcases Table.mem_place_iff.1 hb with rfl | hb
      · omega
      · exact hr b hb

theorem sorted_step {table table' : Option (List Boardgame)} (hstep : Table.Step table table')
    (h : (table.getD []).Pairwise fun a b => a.id < b.id) :
    (table'.getD []).Pairwise fun a b => a.id < b.id := by
  cases hstep with
  | same => exact h
  | create => exact .nil
  | drop => exact .nil
  | insert hkey => exact pairwise_place h hkey
  | erase rows key => exact h.sublist List.filter_sublist

/-- In every store that is reached the games stand in the order of their ids. -/
theorem sorted_boardgames (changes : List Change) :
    ((reached changes).boardgames.getD []).Pairwise fun a b => a.id < b.id :=
  reached_of_step (P := fun s => (s.boardgames.getD []).Pairwise fun a b => a.id < b.id) .nil
    (fun _ _ hgames _ h => sorted_step hgames h) changes

/-! ## Offers by arrival -/

/-- In a run of changes the offer `o` came to stay before the offer `p` did: at some moment `p` was
not there, and from then on `o` was. -/
def Precedes (changes : List Change) (o p : Offer) : Prop :=
  ∃ done rest, changes = done ++ rest ∧ p ∉ (reached done).offers.getD [] ∧
    ∀ more, more <+: rest → o ∈ (reached (done ++ more)).offers.getD []

variable {history : List Change} {o p : Offer}

/-- Of two offers one at most came first. -/
theorem Precedes.asymm (h : Precedes history o p) : ¬ Precedes history p o := by
  intro h'
  obtain ⟨done, rest, hrest, hnot, hstay⟩ := h
  obtain ⟨done', rest', hrest', hnot', hstay'⟩ := h'
  have hone : done <+: done' ∨ done' <+: done :=
    List.prefix_or_prefix_of_prefix (hrest ▸ List.prefix_append done rest)
      (hrest' ▸ List.prefix_append done' rest')
  -- at the later of the two moments the offer that is not there has come to stay already
  rcases hone with ⟨more, rfl⟩ | ⟨more, rfl⟩
  · refine hnot' (hstay more ⟨rest', ?_⟩)
    rw [hrest, List.append_assoc] at hrest'
    exact (List.append_cancel_left hrest').symm
  · refine hnot (hstay' more ⟨rest, ?_⟩)
    rw [hrest', List.append_assoc] at hrest
    exact (List.append_cancel_left hrest).symm

/-- What has come to stay still precedes if it stays on. -/
theorem Precedes.concat (h : Precedes history o p)
    (ho : o ∈ (reached (history ++ [c])).offers.getD []) : Precedes (history ++ [c]) o p := by
  obtain ⟨done, rest, rfl, hnot, hstay⟩ := h
  refine ⟨done, rest ++ [c], List.append_assoc .., hnot, fun more hmore => ?_⟩
  rcases List.prefix_concat_iff.1 hmore with rfl | hmore
  · rwa [← List.append_assoc]
  · exact hstay more hmore

/-- What is there precedes what is added. -/
theorem precedes_new (ho : o ∈ (reached history).offers.getD [])
    (hp : p ∉ (reached history).offers.getD [])
    (ho' : o ∈ (reached (history ++ [c])).offers.getD []) : Precedes (history ++ [c]) o p := by
  refine ⟨history, [c], rfl, hp, fun more hmore => ?_⟩
  rw [← List.nil_append [c], List.prefix_concat_iff] at hmore
  rcases hmore with rfl | hmore
  · exact ho'
  · obtain rfl := List.prefix_nil.1 hmore
    simpa using ho

theorem place_offer (o : Offer) (rows : List Offer) : Table.place o rows = rows ++ [o] := by
  induction rows with
  | nil => rfl
  | cons r rows ih =>
    rw [Table.place, ih]
    rfl

/-- The offers of a run without seeding stand in the order in which they came. -/
theorem arrived_history (hseed : .seed ∉ history) :
    ((reached history).offers.getD []).Pairwise (Precedes history) := by
  induction history using List.reverseRecOn with
  | nil => exact .nil
  | append_singleton history c ih =>
    rw [List.mem_append, not_or, List.mem_singleton] at hseed
    have ih := ih hseed.1
    have hstep := (after_step (reached history) (Ne.symm hseed.2)).2
    rw [← reached_concat] at hstep
    -- offers that stay keep their order; only an insertion adds one, and puts it last
    have hkeep : ∀ rows : List Offer, rows.Sublist ((reached history).offers.getD []) →
        (∀ o ∈ rows, o ∈ (reached (history ++ [c])).offers.getD []) →
        rows.Pairwise (Precedes (history ++ [c])) := fun rows hsub hmem =>
      (ih.sublist hsub).imp_of_mem fun ho _ h => h.concat (hmem _ ho)
    generalize ht : (reached history).offers = t at hstep hkeep
    generalize ht' : (reached (history ++ [c])).offers = t' at hstep hkeep ⊢
    cases hstep with
    | same => exact hkeep _ (.refl _) fun _ ho => ho
    | create => exact .nil
    | drop => exact .nil
    | @insert rows row hkey =>
      rw [place_offer] at ht' hkeep ⊢
      refine List.pairwise_append.2 ⟨hkeep rows (.refl _) fun o ho => by simp [ho],
        List.pairwise_singleton _ _, fun o ho p hp => ?_⟩
      obtain rfl := List.mem_singleton.1 hp
      refine precedes_new (by simpa [ht] using ho) ?_ (by simp [ht', ho])
      intro hmem
      exact hkey p (by simpa [ht] using hmem) rfl
    | erase rows key => exact hkeep _ List.filter_sublist fun _ ho => ho

/-- In every store that is reached the offers stand in the order in which they came. -/
theorem arrived_offers (changes : List Change) : ((reached changes).offers.getD []).Pairwise
    (Precedes (changes.flatMap Change.single)) := by
  rw [← reached_flatMap_single]
  exact arrived_history (by simpa using fun c _ => seed_not_mem_single c)

end Store

end Listing
