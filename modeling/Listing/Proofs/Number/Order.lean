import Listing.Proofs.Number.Nearest
import Mathlib.Data.EReal.Operations

/-!
# The order of binary64 numbers

`Binary64.value` is the extended real that a number stands for, both zeros being zero. The place of
a number orders the numbers as their values are ordered (`place_lt_iff`, `place_eq_iff`).
-/

set_option autoImplicit false

namespace Listing.Number.Binary64

/-- The extended real that a rank stands for. -/
noncomputable def size (r : Nat) : EReal :=
  if r < infinityRank then ((magnitude r : ℝ) : EReal) else ⊤

/-- The extended real that a number stands for. -/
noncomputable def value (x : Binary64) : EReal := if x.negative then -size x.rank else size x.rank

variable {r s : Nat} {x y : Binary64}

theorem size_lt_size (h : r < s) (hs : s ≤ infinityRank) : size r < size s := by
  have hr : r < infinityRank := Nat.lt_of_lt_of_le h hs
  rw [size, if_pos hr, size]
  split
  · exact EReal.coe_lt_coe_iff.2 (Rat.cast_lt.2 (magnitude_strictMono h))
  · exact EReal.coe_lt_top _

@[simp] theorem size_zero : size 0 = 0 := by
  rw [size, if_pos (by decide), magnitude_zero]
  simp

theorem size_nonneg (hr : r ≤ infinityRank) : 0 ≤ size r := by
  rcases Nat.eq_zero_or_pos r with rfl | hpos
  · rw [size_zero]
  · exact le_of_lt (size_zero ▸ size_lt_size hpos hr)

/-- A number further on has a greater value. -/
theorem value_lt_of_place_lt (h : x.place < y.place) : x.value < y.value := by
  obtain ⟨negative, r, hr⟩ := x
  obtain ⟨negative', s, hs⟩ := y
  cases negative <;> cases negative' <;>
    simp only [place, value, if_true, Bool.false_eq_true, if_false, Int.ofNat_eq_natCast] at h ⊢
  · exact size_lt_size (by omega) hs
  · omega
  · rcases Nat.eq_zero_or_pos s with rfl | hpos
    · have : 0 < size r := size_zero ▸ size_lt_size (by omega) hr
      rw [size_zero]
      exact EReal.neg_lt_zero.2 this
    · have : 0 < size s := size_zero ▸ size_lt_size hpos hs
      have hneg : -size r ≤ 0 := by simpa using size_nonneg hr
      exact lt_of_le_of_lt hneg this
  · exact EReal.neg_lt_neg_iff.2 (size_lt_size (by omega) hr)

theorem value_eq_of_place_eq (h : x.place = y.place) : x.value = y.value := by
  obtain ⟨negative, r, hr⟩ := x
  obtain ⟨negative', s, hs⟩ := y
  cases negative <;> cases negative' <;>
    simp only [place, value, if_true, Bool.false_eq_true, if_false, Int.ofNat_eq_natCast] at h ⊢
  · rw [show r = s by omega]
  · obtain ⟨rfl, rfl⟩ : r = 0 ∧ s = 0 := by omega
    simp
  · obtain ⟨rfl, rfl⟩ : r = 0 ∧ s = 0 := by omega
    simp
  · rw [show r = s by omega]

theorem place_lt_iff : x.place < y.place ↔ x.value < y.value := by
  refine ⟨value_lt_of_place_lt, fun h => ?_⟩
  rcases lt_trichotomy x.place y.place with hlt | heq | hgt
  · exact hlt
  · exact absurd (value_eq_of_place_eq heq) h.ne
  · exact absurd (value_lt_of_place_lt hgt) h.asymm

theorem place_eq_iff : x.place = y.place ↔ x.value = y.value := by
  refine ⟨value_eq_of_place_eq, fun h => ?_⟩
  rcases lt_trichotomy x.place y.place with hlt | heq | hgt
  · exact absurd h (value_lt_of_place_lt hlt).ne
  · exact heq
  · exact absurd h (value_lt_of_place_lt hgt).ne'

end Listing.Number.Binary64
