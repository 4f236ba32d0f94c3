import Listing.Proofs.Number.Rounding

/-!
# The binary64 number nearest to a decimal

`Nearest q r`: of the magnitudes that ranks stand for, that of `r` is nearest to the rational `q`,
and if another is as near then `r` is even. At most one rank is nearest (`Nearest.unique`), and
`rankOf` finds it (`nearest_rankOf`) for every decimal below `2 ^ 1024 - 2 ^ 970`; from there on it
gives infinity (`rankOf_lt_infinityRank_iff`).
-/

set_option autoImplicit false

namespace Listing.Number

/-- The rational that a decimal is. -/
def Decimal.toRat (m : Decimal) : ℚ := m.digits * 10 ^ m.exponent

namespace Binary64

/-- The rational that a rank stands for. -/
def magnitude (r : Nat) : ℚ := units r / 2 ^ 1074

/-- The magnitude of `r` is the nearest to `q`, or one of two that are as near and the even one. -/
structure Nearest (q : ℚ) (r : Nat) : Prop where
  le : ∀ z, |magnitude r - q| ≤ |magnitude z - q|
  even : ∀ z, z ≠ r → |magnitude z - q| = |magnitude r - q| → r % 2 = 0

variable {n d r r' : Nat} {q : ℚ} {m : Decimal}

theorem magnitude_strictMono : StrictMono magnitude := by
  intro a b h
  exact div_lt_div_of_pos_right (Nat.cast_lt.2 (units_strictMono h)) (by positivity)

@[simp] theorem magnitude_zero : magnitude 0 = 0 := by
  simp [magnitude, units, show (0 : Nat) < blockSize by decide]

/-- Of three magnitudes the middle one is nearer than one of the others. -/
theorem abs_sub_lt_of_between {a b c : ℚ} (hab : a < b) (hbc : b < c) (h : |a - q| = |c - q|) :
    |b - q| < |a - q| := by
  rcases le_total b q with hq | hq
  · rw [abs_of_nonpos (by linarith), abs_of_nonpos (by linarith)]
    linarith
  · rw [h, abs_of_nonneg (by linarith), abs_of_nonneg (by linarith)]
    linarith

theorem Nearest.rank_le (h : Nearest q r) (h' : Nearest q r') : r' ≤ r := by
  by_contra hlt
  have heq : |magnitude r - q| = |magnitude r' - q| := le_antisymm (h.le r') (h'.le r)
  have heven := h.even r' (by omega) heq.symm
  have heven' := h'.even r (by omega) heq
  have hnear := abs_sub_lt_of_between (magnitude_strictMono (Nat.lt_succ_self r))
    (magnitude_strictMono (show r + 1 < r' by omega)) heq
  exact absurd (h.le (r + 1)) (not_le.2 hnear)

theorem Nearest.unique (h : Nearest q r) (h' : Nearest q r') : r = r' :=
  le_antisymm (h'.rank_le h) (h.rank_le h')

/-! ## Rounding a quotient -/

theorem cast_sub_add_sub (a b : Nat) : ((a - b + (b - a) : Nat) : ℚ) = |(a : ℚ) - b| := by
  rcases le_total a b with h | h
  · rw [Nat.sub_eq_zero_of_le h, Nat.zero_add, Nat.cast_sub h, abs_sub_comm, abs_of_nonneg]
    exact sub_nonneg.2 (Nat.cast_le.2 h)
  · rw [Nat.sub_eq_zero_of_le h, Nat.add_zero, Nat.cast_sub h, abs_of_nonneg]
    exact sub_nonneg.2 (Nat.cast_le.2 h)

theorem cast_shiftLeft (n k : Nat) : ((n <<< k : Nat) : ℚ) = n * 2 ^ k := by
  rw [Nat.shiftLeft_eq, Nat.cast_mul, Nat.cast_pow, Nat.cast_ofNat]

theorem abs_magnitude_sub (hd : 0 < d) (z : Nat) :
    |magnitude z - n / d| = (gap n d z : ℚ) / (2 ^ 1074 * d) := by
  have hd' : (d : ℚ) ≠ 0 := by positivity
  rw [gap, cast_sub_add_sub, cast_shiftLeft, Nat.cast_mul, magnitude]
  generalize hP : (2 : ℚ) ^ 1074 = P
  have hP' : 0 < P := hP ▸ by positivity
  have hpos : 0 < P * d := by positivity
  rw [div_sub_div _ _ hP'.ne' hd', abs_div, abs_of_pos hpos, mul_comm P (n : ℚ)]

theorem nearest_freeRank (n : Nat) (hd : 0 < d) : Nearest (n / d : ℚ) (freeRank n d) where
  le z := by
    rw [abs_magnitude_sub hd, abs_magnitude_sub hd]
    gcongr
    exact gap_freeRank_le n hd z
  even z hz h := by
    refine freeRank_even_of_tie hd hz ?_
    rw [abs_magnitude_sub hd, abs_magnitude_sub hd] at h
    have hpos : (2 ^ 1074 * d : ℚ) ≠ 0 := by positivity
    exact Nat.cast_injective ((div_left_inj' hpos).1 h)

/-! ## Rounding a decimal -/

theorem tens_pos (e : Int) : 0 < tens e := Nat.pow_pos (by decide)

/-- A decimal as the quotient that is rounded. -/
theorem toRat_eq_div (m : Decimal) :
    m.toRat = (m.digits * tens m.exponent : Nat) / (tens (-m.exponent) : Nat) := by
  have htens (e : Int) : ((tens e : Nat) : ℚ) = 10 ^ e.toNat := by simp [tens]
  rw [Nat.cast_mul, htens, htens, Decimal.toRat]
  rcases le_total 0 m.exponent with h | h
  · obtain ⟨k, hk⟩ := Int.eq_ofNat_of_zero_le h
    simp [hk]
  · obtain ⟨k, hk⟩ := Int.exists_eq_neg_ofNat h
    simp [hk, div_eq_mul_inv]

/-- The least magnitude that is rounded to infinity. -/
def overflow : ℚ := 2 ^ 1024 - 2 ^ 970

theorem cast_overflow : ((2 ^ 2098 - 2 ^ 2044 : Nat) : ℚ) = overflow * 2 ^ 1074 := by
  rw [Nat.cast_sub (Nat.pow_le_pow_right (by decide) (by decide)), Nat.cast_pow, Nat.cast_pow,
    Nat.cast_ofNat, overflow, sub_mul, ← pow_add, ← pow_add]

theorem freeRank_lt_iff_lt_overflow (n : Nat) (hd : 0 < d) :
    freeRank n d < infinityRank ↔ (n / d : ℚ) < overflow := by
  have hd' : (0 : ℚ) < d := Nat.cast_pos.2 hd
  have hP : (0 : ℚ) < 2 ^ 1074 := by positivity
  rw [freeRank_lt_infinityRank_iff n hd, ← Nat.cast_lt (α := ℚ), cast_shiftLeft, Nat.cast_mul,
    cast_overflow, mul_right_comm, mul_lt_mul_iff_left₀ hP, div_lt_iff₀ hd']

/-- A decimal whose exponent is far below its digits is nearer to zero than to anything else. -/
theorem toRat_lt_of_small (h : 3 * m.exponent + m.digits.log2 < -1100) :
    m.toRat < magnitude 1 / 2 := by
  obtain ⟨k, hk⟩ : ∃ k : Nat, m.exponent = -k := Int.exists_eq_neg_ofNat (by omega)
  have hdigits : m.digits < 2 ^ (m.digits.log2 + 1) := Nat.lt_log2_self
  have hnat : m.digits * 2 ^ 1075 < 10 ^ k := by
    calc m.digits * 2 ^ 1075 < 2 ^ (m.digits.log2 + 1) * 2 ^ 1075 :=
          Nat.mul_lt_mul_of_pos_right hdigits (Nat.two_pow_pos 1075)
      _ = 2 ^ (m.digits.log2 + 1 + 1075) := (pow_add ..).symm
      _ ≤ 2 ^ (3 * k) := Nat.pow_le_pow_right (by decide) (by omega)
      _ = 8 ^ k := pow_mul 2 3 k
      _ ≤ 10 ^ k := Nat.pow_le_pow_left (by decide) k
  have hone : magnitude 1 / 2 = 1 / 2 ^ 1075 := by
    rw [magnitude, show units 1 = 1 by decide, pow_succ (2 : ℚ) 1074, div_div, Nat.cast_one]
  have hrat : m.toRat = m.digits / 10 ^ k := by
    rw [Decimal.toRat, hk, zpow_neg, zpow_natCast, div_eq_mul_inv]
  rw [hone, hrat, div_lt_div_iff₀ (by positivity) (by positivity), one_mul]
  exact_mod_cast hnat

theorem overflow_le_of_large (hm : m.digits ≠ 0) (h : 309 ≤ m.exponent) : overflow ≤ m.toRat := by
  have hnat : 2 ^ 1024 ≤ 10 ^ 309 := by decide +kernel
  have hone : (1 : ℚ) ≤ m.digits := Nat.one_le_cast.2 (Nat.pos_of_ne_zero hm)
  calc overflow ≤ 2 ^ 1024 := sub_le_self _ (by positivity)
    _ ≤ 10 ^ 309 := by exact_mod_cast hnat
    _ = 10 ^ (309 : ℤ) := (zpow_natCast 10 309).symm
    _ ≤ 10 ^ m.exponent := zpow_le_zpow_right₀ (by norm_num) h
    _ ≤ m.digits * 10 ^ m.exponent := le_mul_of_one_le_left (by positivity) hone

theorem one_lt_overflow : 1 < overflow := by
  have h : overflow = (2 ^ 54 - 1) * 2 ^ 970 := by
    rw [overflow, sub_mul, ← pow_add, one_mul]
  rw [h]
  exact one_lt_mul_of_lt_of_le (by norm_num) (one_le_pow₀ (by norm_num))

theorem nearest_zero (h0 : 0 ≤ q) (h : q < magnitude 1 / 2) : Nearest q 0 := by
  have hz (z : Nat) (hz : z ≠ 0) : |magnitude 0 - q| < |magnitude z - q| := by
    have h1 : magnitude 1 ≤ magnitude z :=
      magnitude_strictMono.monotone (Nat.one_le_iff_ne_zero.2 hz)
    rw [magnitude_zero, zero_sub, abs_neg, abs_of_nonneg h0, abs_of_nonneg (by linarith)]
    linarith
  refine ⟨fun z => ?_, ?_⟩
  · rcases eq_or_ne z 0 with rfl | h
    · exact le_rfl
    · exact (hz z h).le
  · intro z h heq
    exact absurd heq (hz z h).ne'

theorem toRat_nonneg (m : Decimal) : 0 ≤ m.toRat := by unfold Decimal.toRat; positivity

/-- The ways in which a decimal is rounded. -/
theorem rankOf_cases (m : Decimal) :
    (rankOf m = 0 ∧ m.toRat < magnitude 1 / 2) ∨ (rankOf m = infinityRank ∧ overflow ≤ m.toRat) ∨
      ∃ n d : Nat, 0 < d ∧ m.toRat = (n / d : ℚ) ∧ rankOf m = min (freeRank n d) infinityRank := by
  unfold rankOf
  split
  · rename_i h0
    have hone : 0 < magnitude 1 := by
      rw [← magnitude_zero]; exact magnitude_strictMono Nat.one_pos
    exact .inl ⟨rfl, by rw [Decimal.toRat, h0]; simpa using half_pos hone⟩
  split
  · rename_i h0 h
    exact .inr (.inl ⟨rfl, overflow_le_of_large h0 h⟩)
  split
  · rename_i h
    exact .inl ⟨rfl, toRat_lt_of_small h⟩
  · refine .inr (.inr ⟨m.digits * tens m.exponent, tens (-m.exponent), tens_pos _,
      toRat_eq_div m, ?_⟩)
    rw [nearestRank_eq]

/-- A decimal is rounded to a finite number iff it is below the least that overflows. -/
theorem rankOf_lt_infinityRank_iff (m : Decimal) :
    rankOf m < infinityRank ↔ m.toRat < overflow := by
  rcases rankOf_cases m with ⟨hr, h0⟩ | ⟨hr, h1⟩ | ⟨n, d, hd, hq, hr⟩
  · have hone : magnitude 1 ≤ 1 := by
      rw [magnitude, show units 1 = 1 by decide, Nat.cast_one]
      exact div_le_one_of_le₀ (one_le_pow₀ (by norm_num)) (by positivity)
    have hlt : m.toRat < overflow := by linarith [one_lt_overflow]
    rw [hr]
    exact iff_of_true (by decide) hlt
  · rw [hr]
    exact iff_of_false (lt_irrefl _) (not_lt.2 h1)
  · rw [hr, hq, ← freeRank_lt_iff_lt_overflow n hd]
    omega

/-- A decimal that does not overflow is rounded to the nearest rank. -/
theorem nearest_rankOf (h : m.toRat < overflow) : Nearest m.toRat (rankOf m) := by
  rcases rankOf_cases m with ⟨hr, h0⟩ | ⟨-, h1⟩ | ⟨n, d, hd, hq, hr⟩
  · rw [hr]
    exact nearest_zero (toRat_nonneg m) h0
  · exact absurd h (not_lt.2 h1)
  · rw [hq, ← freeRank_lt_iff_lt_overflow n hd] at h
    rw [hr, hq, Nat.min_eq_left h.le]
    exact nearest_freeRank n hd

/-- A finite rank is nearest to a decimal only if the decimal is rounded to it. -/
theorem nearest_iff_eq_rankOf (hr : r < infinityRank) :
    Nearest m.toRat r ↔ m.toRat < overflow ∧ r = rankOf m := by
  refine ⟨fun h => ?_, ?_⟩
  · have hfree := nearest_freeRank (m.digits * tens m.exponent) (tens_pos (-m.exponent))
    rw [← toRat_eq_div] at hfree
    have hlt : m.toRat < overflow := by
      rw [toRat_eq_div, ← freeRank_lt_iff_lt_overflow _ (tens_pos _), hfree.unique h]
      exact hr
    exact ⟨hlt, h.unique (nearest_rankOf hlt)⟩
  · intro h
    obtain ⟨hlt, rfl⟩ := h
    exact nearest_rankOf hlt

end Binary64

end Listing.Number
