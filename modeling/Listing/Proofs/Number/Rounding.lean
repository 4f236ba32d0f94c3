import Listing.Number.Binary64
import Mathlib

/-!
# Rounding to the nearest rank

`units` is strictly increasing, so ranks compare as the numbers they stand for. `freeRank n d` is
the rank that the quotient `n / d` is rounded to before overflow is looked at: no rank is nearer to
the quotient (`gap_freeRank_le`), and if another is as near, the chosen one is even
(`freeRank_even_of_tie`). Where rounding overflows follows from these two alone
(`freeRank_lt_infinityRank_iff`).
-/

set_option autoImplicit false

namespace Listing.Number.Binary64

variable {n d k h r z : Nat}

theorem blockSize_eq : blockSize = 2 ^ 52 := by decide

/-! ## Ranks and magnitudes -/

/-- The magnitude of a rank that is `h` steps of the spacing `2 ^ k`, at which its block begins
unless it is the first. -/
theorem units_add (hh : h ≤ 2 * blockSize) (hk : k = 0 ∨ blockSize ≤ h) :
    units (k * blockSize + h) = h * 2 ^ k := by
  unfold units
  split
  · rename_i hlt
    obtain rfl : k = 0 := by
      by_contra hne
      have := Nat.mul_le_mul_right blockSize (Nat.pos_of_ne_zero hne)
      omega
    simp
  rename_i hlt
  have hB : blockSize ≤ h := hk.elim (fun h0 => by subst h0; omega) id
  rcases Nat.eq_or_lt_of_le hh with rfl | hh
  · -- the first rank of the block after the next
    have hr : k * blockSize + 2 * blockSize = (k + 2) * blockSize := by ring
    have hpos : 0 < blockSize := by decide
    rw [hr, Nat.mul_mod_left, Nat.mul_div_left _ hpos, Nat.shiftLeft_eq]
    rw [show k + 2 - 1 = k + 1 by omega, pow_succ]
    ring
  · obtain ⟨t, rfl⟩ := Nat.exists_eq_add_of_le hB
    have ht : t < blockSize := by omega
    have hr : k * blockSize + (blockSize + t) = t + (k + 1) * blockSize := by ring
    have hpos : 0 < blockSize := by decide
    rw [hr, Nat.add_mul_mod_self_right, Nat.add_mul_div_right _ _ hpos, Nat.div_eq_of_lt ht,
      Nat.mod_eq_of_lt ht, Nat.shiftLeft_eq]
    simp

/-- Every rank is a number of steps within a block. -/
theorem exists_block (r : Nat) :
    ∃ k h, r = k * blockSize + h ∧ h < 2 * blockSize ∧ (k = 0 ∨ blockSize ≤ h) := by
  have hpos : 0 < blockSize := by decide
  have hr := Nat.div_add_mod' r blockSize
  have hm := Nat.mod_lt r hpos
  cases hq : r / blockSize with
  | zero => exact ⟨0, r % blockSize, by simpa [hq] using hr.symm, by omega, .inl rfl⟩
  | succ k =>
    have hk : (k + 1) * blockSize = k * blockSize + blockSize := Nat.succ_mul k blockSize
    rw [hq] at hr
    exact ⟨k, blockSize + r % blockSize, by omega, by omega, .inr (by omega)⟩

theorem units_lt_succ (r : Nat) : units r < units (r + 1) := by
  obtain ⟨k, h, rfl, hh, hk⟩ := exists_block r
  rw [units_add hh.le hk, Nat.add_assoc, units_add (by omega) (hk.imp_right (by omega))]
  exact Nat.mul_lt_mul_of_pos_right (Nat.lt_succ_self h) (Nat.two_pow_pos k)

theorem units_strictMono : StrictMono units := strictMono_nat_of_lt_succ units_lt_succ

theorem units_infinityRank : units infinityRank = 2 ^ 2098 := by
  have h : infinityRank = 2046 * blockSize + blockSize := by decide
  rw [h, units_add (by omega) (.inr le_rfl), blockSize_eq, ← pow_add]

/-! ## The nearest integer -/

theorem halfEven_cases (n : Nat) (d : Nat) :
    (halfEven n d = n / d ∧ 2 * (n % d) < d) ∨ (halfEven n d = n / d + 1 ∧ d < 2 * (n % d)) ∨
      (halfEven n d = n / d + n / d % 2 ∧ 2 * (n % d) = d) := by
  unfold halfEven
  dsimp only
  split
  · exact .inl ⟨rfl, by assumption⟩
  split
  · exact .inr (.inl ⟨rfl, by assumption⟩)
  · exact .inr (.inr ⟨rfl, by omega⟩)

/-! ## The nearest rank -/

/-- The power of two that is the spacing of the ranks around `n / d`. -/
def spacing (n d : Nat) : Nat := ((n <<< 1074) / d).log2 - 52

/-- The rank that `n / d` is rounded to, were there no last one. -/
def freeRank (n d : Nat) : Nat :=
  spacing n d * blockSize + halfEven (n <<< 1074) (d <<< spacing n d)

theorem nearestRank_eq (n d : Nat) : nearestRank n d = min (freeRank n d) infinityRank := rfl

/-- How far a rank is from `n / d`, in units and times `d`. -/
def gap (n d z : Nat) : Nat := (units z * d - n <<< 1074) + (n <<< 1074 - units z * d)

theorem log2_bounds {x : Nat} (h : 2 ^ 53 ≤ x) :
    2 ^ x.log2 ≤ x ∧ x < 2 ^ (x.log2 + 1) ∧ 53 ≤ x.log2 := by
  have hx : x ≠ 0 := by omega
  exact ⟨Nat.log2_self_le hx, Nat.lt_log2_self, (Nat.le_log2 hx).2 h⟩

/-- The quotient by the spacing lies within one block. -/
theorem div_spacing_lt (n d : Nat) :
    (n <<< 1074) / (d <<< spacing n d) < 2 * blockSize ∧
      (spacing n d = 0 ∨ blockSize ≤ (n <<< 1074) / (d <<< spacing n d)) := by
  rw [Nat.shiftLeft_eq d, ← Nat.div_div_eq_div_mul, blockSize_eq]
  unfold spacing
  generalize (n <<< 1074) / d = x
  by_cases hx : x < 2 ^ 53
  · have hlog : x.log2 ≤ 52 := by
      by_contra hc
      have hx0 : x ≠ 0 := by rintro rfl; simp at hc
      have := (Nat.le_log2 hx0).1 (show 53 ≤ x.log2 by omega)
      omega
    rw [show x.log2 - 52 = 0 by omega]
    exact ⟨by omega, .inl rfl⟩
  · obtain ⟨h1, h2, h3⟩ := log2_bounds (by omega : 2 ^ 53 ≤ x)
    have hl : x.log2 = x.log2 - 52 + 52 := by omega
    generalize x.log2 - 52 = k at *
    rw [hl] at h1 h2
    have hpos : 0 < 2 ^ k := Nat.two_pow_pos k
    refine ⟨(Nat.div_lt_iff_lt_mul hpos).2 ?_, .inr ((Nat.le_div_iff_mul_le hpos).2 ?_)⟩
    · calc x < 2 ^ (k + 52 + 1) := h2
        _ = 2 * 2 ^ 52 * 2 ^ k := by ring
    · calc 2 ^ 52 * 2 ^ k = 2 ^ (k + 52) := by ring
        _ ≤ x := h1

/-- The ranks next to `n / d`: `freeRank` is one of them, the nearer one, or the even one if both
are as near. -/
theorem freeRank_neighbours (n : Nat) (hd : 0 < d) : ∃ low rem step,
    units low * d + rem = n <<< 1074 ∧ units (low + 1) * d = units low * d + step ∧ rem < step ∧
      ((freeRank n d = low ∧ 2 * rem < step) ∨ (freeRank n d = low + 1 ∧ step < 2 * rem) ∨
        (freeRank n d = low + low % 2 ∧ 2 * rem = step)) := by
  obtain ⟨hlt, hk⟩ := div_spacing_lt n d
  have hstep : 0 < d <<< spacing n d := by
    rw [Nat.shiftLeft_eq]; exact Nat.mul_pos hd (Nat.two_pow_pos _)
  have hcases := halfEven_cases (n <<< 1074) (d <<< spacing n d)
  have hfree : freeRank n d = spacing n d * blockSize + halfEven (n <<< 1074) (d <<< spacing n d) :=
    rfl
  have hdiv := Nat.div_add_mod (n <<< 1074) (d <<< spacing n d)
  have hmod := Nat.mod_lt (n <<< 1074) hstep
  generalize spacing n d = k at *
  generalize (n <<< 1074) % (d <<< k) = rem at *
  generalize (n <<< 1074) / (d <<< k) = q at *
  have hlow : units (k * blockSize + q) * d = (d <<< k) * q := by
    rw [units_add hlt.le hk, Nat.shiftLeft_eq]; ring
  have hhigh : units (k * blockSize + q + 1) * d = (d <<< k) * q + d <<< k := by
    have hlt : q + 1 ≤ 2 * blockSize := hlt
    rw [Nat.add_assoc, units_add hlt (hk.imp_right (by omega)), Nat.shiftLeft_eq]; ring
  have heven : (k * blockSize + q) % 2 = q % 2 := by
    have : k * blockSize % 2 = 0 := by rw [Nat.mul_mod, show blockSize % 2 = 0 by decide]; simp
    omega
  refine ⟨k * blockSize + q, rem, d <<< k, ?_, ?_, hmod, ?_⟩
  · omega
  · omega
  · rw [heven]
    omega

theorem units_mul_lt (hd : 0 < d) (h : z < r) : units z * d < units r * d :=
  Nat.mul_lt_mul_of_pos_right (units_strictMono h) hd

/-- No rank is nearer than the one chosen. -/
theorem gap_freeRank_le (n : Nat) (hd : 0 < d) (z : Nat) :
    gap n d (freeRank n d) ≤ gap n d z := by
  obtain ⟨low, rem, step, hlow, hhigh, hrem, hr⟩ := freeRank_neighbours n hd
  -- magnitudes grow with the rank, so only `low` and the rank after it compete
  have hz : units z * d ≤ units low * d ∨ units (low + 1) * d ≤ units z * d := by
    rcases Nat.lt_or_ge low z with h | h
    · exact .inr (Nat.mul_le_mul_right d (units_strictMono.monotone h))
    · exact .inl (Nat.mul_le_mul_right d (units_strictMono.monotone h))
  unfold gap
  rcases hr with ⟨hr, h⟩ | ⟨hr, h⟩ | ⟨hr, h⟩
  · rw [hr]; omega
  · rw [hr]; omega
  · rcases Nat.mod_two_eq_zero_or_one low with h0 | h1
    · rw [hr, h0, Nat.add_zero]; omega
    · rw [hr, h1]; omega

/-- If another rank is as near, the one chosen is even. -/
theorem freeRank_even_of_tie (hd : 0 < d) (hz : z ≠ freeRank n d)
    (h : gap n d z = gap n d (freeRank n d)) : freeRank n d % 2 = 0 := by
  obtain ⟨low, rem, step, hlow, hhigh, hrem, hr⟩ := freeRank_neighbours n hd
  have hz' : z < low ∨ z = low ∨ z = low + 1 ∨ low + 1 < z := by omega
  unfold gap at h
  rcases hr with ⟨hr, h'⟩ | ⟨hr, h'⟩ | ⟨hr, h'⟩
  · rw [hr] at h hz ⊢
    rcases hz' with hz' | rfl | rfl | hz'
    · have := units_mul_lt hd hz'; omega
    · exact absurd rfl hz
    · omega
    · have := units_mul_lt hd hz'; omega
  · rw [hr] at h hz ⊢
    rcases hz' with hz' | rfl | rfl | hz'
    · have := units_mul_lt hd hz'; omega
    · omega
    · exact absurd rfl hz
    · have := units_mul_lt hd hz'; omega
  · omega

/-! ## Overflow -/

theorem units_infinityRank_sub_one : units (infinityRank - 1) = 2 ^ 2098 - 2 ^ 2045 := by
  have h : infinityRank - 1 = 2045 * blockSize + (2 * blockSize - 1) := by decide
  have hp : (2 * 2 ^ 52 : Nat) * 2 ^ 2045 = 2 ^ 2098 := by rw [← pow_succ', ← pow_add]
  rw [h, units_add (by omega) (.inr (by decide)), blockSize_eq, Nat.sub_mul, hp, Nat.one_mul]

/-- Infinity and the last finite rank, in steps of half the last spacing. -/
theorem units_infinityRank_mul (d : Nat) :
    units infinityRank * d = 2 ^ 54 * (2 ^ 2044 * d) ∧
      units (infinityRank - 1) * d = (2 ^ 54 - 2) * (2 ^ 2044 * d) ∧
      (2 ^ 2098 - 2 ^ 2044) * d = (2 ^ 54 - 1) * (2 ^ 2044 * d) := by
  have h54 : (2 ^ 54 : Nat) * 2 ^ 2044 = 2 ^ 2098 := by rw [← pow_add]
  have h2 : (2 : Nat) * 2 ^ 2044 = 2 ^ 2045 := by rw [← pow_succ']
  rw [units_infinityRank, units_infinityRank_sub_one, ← h54, ← h2]
  refine ⟨Nat.mul_assoc .., ?_, ?_⟩
  · rw [← Nat.sub_mul, Nat.mul_assoc]
  · rw [← Nat.sub_one_mul, Nat.mul_assoc]

/-- A quotient is rounded to a finite rank iff it is below the middle of the largest finite number
and the power of two after it; the middle itself goes to infinity. -/
theorem freeRank_lt_infinityRank_iff (n : Nat) (hd : 0 < d) :
    freeRank n d < infinityRank ↔ n <<< 1074 < (2 ^ 2098 - 2 ^ 2044) * d := by
  obtain ⟨hinf, hmax, hmid⟩ := units_infinityRank_mul d
  have hpos : 0 < 2 ^ 2044 * d := Nat.mul_pos (Nat.two_pow_pos 2044) hd
  rw [hmid]
  generalize 2 ^ 2044 * d = half at *
  refine ⟨fun hr => ?_, fun hn => ?_⟩
  · by_contra hn
    have hle : units (freeRank n d) * d ≤ units (infinityRank - 1) * d :=
      Nat.mul_le_mul_right d (units_strictMono.monotone (by omega))
    have hgap := gap_freeRank_le n hd infinityRank
    -- only the middle is as near to infinity, and the last finite rank is odd
    have htie : gap n d infinityRank = gap n d (freeRank n d) := by unfold gap at *; omega
    have hodd : freeRank n d = infinityRank - 1 := by
      by_contra hne
      have := units_mul_lt hd (show freeRank n d < infinityRank - 1 by omega)
      unfold gap at *
      omega
    have heven := freeRank_even_of_tie hd (by omega) htie
    rw [hodd] at heven
    exact absurd heven (by decide)
  · by_contra hr
    have hle : units infinityRank * d ≤ units (freeRank n d) * d :=
      Nat.mul_le_mul_right d (units_strictMono.monotone (by omega))
    have hgap := gap_freeRank_le n hd (infinityRank - 1)
    unfold gap at hgap
    omega

end Listing.Number.Binary64
