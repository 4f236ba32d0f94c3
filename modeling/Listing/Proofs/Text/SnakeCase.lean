import Listing.Proofs.Text.LetterCase
import Listing.Text.SnakeCase

/-!
# Names in snake case

In snake case an ASCII name keeps its characters in their order, capitals made small, and only
underscores come and go (`filter_snakeCase`). There is none in front (`head?_snakeCase`), so the
first character is that of the name behind its underscores, if it has one.
-/

set_option autoImplicit false

namespace Listing.Text

variable {c : Char} {cs : List Char} {name : String}

/-! ## Characters -/

theorem CodeSet.has_of_lt {s : CodeSet} (h : ∀ b ∈ s.bounds, c.toNat < b) : s.has c = false := by
  obtain ⟨bounds⟩ := s
  unfold has
  induction bounds with
  | nil => rfl
  | cons b bounds ih =>
    rw [List.foldl_cons, if_neg (Nat.not_le.2 (h b List.mem_cons_self))]
    exact ih fun b hb => h b (List.mem_cons_of_mem _ hb)

theorem marks_has_of_ascii (hc : c.toNat < 128) : marks.has c = false := by
  have hbounds : ∀ b ∈ marks.bounds, 128 ≤ b := by decide +kernel
  exact CodeSet.has_of_lt fun b hb => Nat.lt_of_lt_of_le hc (hbounds b hb)

theorem toLower_eq_underscore_iff : c.toLower = '_' ↔ c = '_' := by
  constructor
  · intro h
    have hsame : SameLetter c '_' := toLower_eq_iff.1 h
    cases hsame with
    | same => rfl
    | small hA hZ hd =>
      have hc := (isUpper_iff_toNat.1 (isUpper_iff.2 ⟨hA, hZ⟩)).1
      have : '_'.toNat = 95 := rfl
      omega
    | capital hA hZ _ => exact absurd hZ (by decide)
  · rintro rfl
    rfl

theorem smallFrom_of_ascii (h : ∀ c ∈ cs, c.toNat < 128) (before : List Char) :
    smallFrom before cs = cs.map Char.toLower := by
  induction cs generalizing before with
  | nil => rfl
  | cons c cs ih =>
    obtain ⟨hc, hcs⟩ := List.forall_mem_cons.1 h
    have hsigma : c ≠ '\u03a3' := by
      rintro rfl
      exact absurd hc (by decide)
    simp [smallFrom, hsigma, small, hc, ih hcs]

theorem smallWord_of_ascii (h : ∀ c ∈ cs, c.toNat < 128) : smallWord cs = cs.map Char.toLower :=
  smallFrom_of_ascii h []

namespace SnakeCase

/-! ## Words -/

theorem clusters_of_ascii (h : ∀ c ∈ cs, c.toNat < 128) : clusters cs = cs.map fun c => [c] := by
  induction cs with
  | nil => rfl
  | cons c cs ih =>
    obtain ⟨-, hcs⟩ := List.forall_mem_cons.1 h
    cases cs with
    | nil => rfl
    | cons d ds =>
      unfold clusters
      rw [ih hcs]
      simp [marks_has_of_ascii (hcs d List.mem_cons_self)]

theorem flatten_prepend (k : Cluster) (ws : List (List Cluster)) :
    (prepend k ws).flatten = k :: ws.flatten := by
  cases ws <;> rfl

/-- Nothing but the underscores is lost between the pieces of a name. -/
theorem flatten_pieces (ks : List Cluster) : (pieces ks).flatten = ks.filter (· ≠ ['_']) := by
  induction ks with
  | nil => rfl
  | cons k ks ih =>
    rw [pieces]
    split
    · rename_i hk
      simp [hk, ih]
    · rename_i hk
      split <;> simp [hk, ih, flatten_prepend]

theorem flatten_words (h : ∀ c ∈ name.toList, c.toNat < 128) :
    (words name).flatten = name.toList.filter (· ≠ '_') := by
  rw [words, ← List.flatten_flatten, List.flatten_filter_ne_nil, flatten_pieces,
    clusters_of_ascii h]
  induction name.toList with
  | nil => rfl
  | cons c cs ih => by_cases hc : c = '_' <;> simpa [hc] using ih

theorem ne_nil_of_mem_words (h : ∀ c ∈ name.toList, c.toNat < 128) {w : List Char}
    (hw : w ∈ words name) : w ≠ [] := by
  obtain ⟨piece, hpiece, rfl⟩ := List.mem_map.1 hw
  obtain ⟨hmem, hne⟩ := List.mem_filter.1 hpiece
  obtain ⟨k, ks, rfl⟩ := List.exists_cons_of_ne_nil (of_decide_eq_true hne)
  -- a cluster of a piece is one of the name, so it is one character
  have hk : k ∈ (pieces (clusters name.toList)).flatten :=
    List.mem_flatten.2 ⟨_, hmem, List.mem_cons_self⟩
  rw [flatten_pieces, clusters_of_ascii h] at hk
  obtain ⟨c, -, rfl⟩ := List.mem_map.1 (List.mem_filter.1 hk).1
  simp

theorem underscore_not_mem_word (h : ∀ c ∈ name.toList, c.toNat < 128) {w : List Char}
    (hw : w ∈ words name) : '_' ∉ w := by
  intro hmem
  have hflat : '_' ∈ (words name).flatten := List.mem_flatten.2 ⟨w, hw, hmem⟩
  rw [flatten_words h] at hflat
  simp at hflat

theorem smallWord_of_mem_words (h : ∀ c ∈ name.toList, c.toNat < 128) {w : List Char}
    (hw : w ∈ words name) : smallWord w = w.map Char.toLower := by
  refine smallWord_of_ascii fun c hc => ?_
  have hflat : c ∈ (words name).flatten := List.mem_flatten.2 ⟨w, hw, hc⟩
  rw [flatten_words h] at hflat
  exact h c (List.mem_filter.1 hflat).1

/-! ## Names -/

theorem toList_snakeCase (h : ∀ c ∈ name.toList, c.toNat < 128) :
    (snakeCase name).toList = ['_'].intercalate ((words name).map (List.map Char.toLower)) := by
  have hwords : (words name).map (fun w => String.ofList (smallWord w))
      = (words name).map fun w => String.ofList (w.map Char.toLower) :=
    List.map_congr_left fun w hw => by rw [smallWord_of_mem_words h hw]
  simp [snakeCase, hwords, Function.comp_def]

theorem filter_intercalate {ws : List (List Char)} (h : ∀ w ∈ ws, '_' ∉ w) :
    (['_'].intercalate ws).filter (· ≠ '_') = ws.flatten := by
  induction ws with
  | nil => rfl
  | cons w ws ih =>
    obtain ⟨hw, hws⟩ := List.forall_mem_cons.1 h
    have hkeep : w.filter (· ≠ '_') = w :=
      List.filter_eq_self.2 fun c hc => decide_eq_true fun heq => hw (heq ▸ hc)
    cases ws with
    | nil => simpa using hkeep
    | cons v vs =>
      rw [List.intercalate_cons_cons, List.filter_append, List.filter_append, hkeep, ih hws]
      simp

/-- The characters of a name in snake case, underscores left aside, are those of the name made
small. -/
theorem filter_snakeCase (h : ∀ c ∈ name.toList, c.toNat < 128) :
    (snakeCase name).toList.filter (· ≠ '_') = (name.toList.filter (· ≠ '_')).map Char.toLower := by
  rw [toList_snakeCase h, filter_intercalate, ← flatten_words h, List.map_flatten]
  intro small hsmall hmem
  obtain ⟨w, hw, rfl⟩ := List.mem_map.1 hsmall
  obtain ⟨c, hc, hlower⟩ := List.mem_map.1 hmem
  rw [toLower_eq_underscore_iff.1 hlower] at hc
  exact underscore_not_mem_word h hw hc

theorem head?_snakeCase_ne (h : ∀ c ∈ name.toList, c.toNat < 128) :
    (snakeCase name).toList.head? ≠ some '_' := by
  rw [toList_snakeCase h]
  cases hwords : words name with
  | nil => simp
  | cons w ws =>
    have hw : w ∈ words name := hwords ▸ List.mem_cons_self
    obtain ⟨c, cs, rfl⟩ := List.exists_cons_of_ne_nil (ne_nil_of_mem_words h hw)
    have hc : c.toLower ≠ '_' := fun heq =>
      underscore_not_mem_word h hw (toLower_eq_underscore_iff.1 heq ▸ List.mem_cons_self)
    cases ws <;> simpa using hc

/-- The first character of a name in snake case is the first one of the name that is no
underscore. -/
theorem head?_snakeCase (h : ∀ c ∈ name.toList, c.toNat < 128) :
    (snakeCase name).toList.head? = (name.toList.find? (· ≠ '_')).map Char.toLower := by
  have hfilter := congrArg List.head? (filter_snakeCase h)
  rw [List.head?_map, List.head?_filter, List.head?_filter] at hfilter
  rw [← hfilter]
  have hne := head?_snakeCase_ne h
  cases hcs : (snakeCase name).toList with
  | nil => rfl
  | cons c cs =>
    rw [hcs] at hne
    have hc : c ≠ '_' := fun heq => hne (congrArg some heq)
    simp [hc]

theorem mem_snakeCase (h : ∀ c ∈ name.toList, c.toNat < 128) (hc : c ∈ (snakeCase name).toList) :
    c = '_' ∨ ∃ d ∈ name.toList, d ≠ '_' ∧ d.toLower = c := by
  by_cases hu : c = '_'
  · exact .inl hu
  · have hmem : c ∈ (snakeCase name).toList.filter (· ≠ '_') :=
      List.mem_filter.2 ⟨hc, decide_eq_true hu⟩
    rw [filter_snakeCase h] at hmem
    obtain ⟨d, hd, rfl⟩ := List.mem_map.1 hmem
    obtain ⟨hd, hne⟩ := List.mem_filter.1 hd
    exact .inr ⟨d, hd, of_decide_eq_true hne, rfl⟩

/-- A character of a name that is no underscore stays, made small. -/
theorem toLower_mem_snakeCase (h : ∀ c ∈ name.toList, c.toNat < 128) (hc : c ∈ name.toList)
    (hu : c ≠ '_') : c.toLower ∈ (snakeCase name).toList := by
  have hmem : c.toLower ∈ (name.toList.filter (· ≠ '_')).map Char.toLower :=
    List.mem_map_of_mem (List.mem_filter.2 ⟨hc, decide_eq_true hu⟩)
  rw [← filter_snakeCase h] at hmem
  exact (List.mem_filter.1 hmem).1

end SnakeCase

end Listing.Text
