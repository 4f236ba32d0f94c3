import Listing.Number.Shortest
import Listing.Proofs.Number.Exact

/-!
# Shortest decimals read back

Every rational strictly between the two middles around a magnitude is rounded to that magnitude, and
so are the middles of an even rank (`Within.nearest`). The digits written for a number lie there, so
they are read as the number they were written for (`rankOf_decimal`).
-/

set_option autoImplicit false

namespace Listing.Number.Shortest

open Binary64

/-- A rational, in units of `2 ^ -1075`, lies in the interval. -/
def Within (i : Interval) (q : ℚ) : Prop :=
  if i.closed then i.low ≤ q * 2 ^ 1075 ∧ q * 2 ^ 1075 ≤ i.high
  else i.low < q * 2 ^ 1075 ∧ q * 2 ^ 1075 < i.high

variable {r c : Nat} {i : Interval} {place : Int} {q : ℚ}

/-! ## The interval of a rank -/

theorem units_eq (z : Nat) : 2 * (units z : ℚ) = magnitude z * 2 ^ 1075 := by
  have hP : (2 : ℚ) ^ 1074 ≠ 0 := by positivity
  rw [magnitude, pow_succ (2 : ℚ) 1074]
  generalize (2 : ℚ) ^ 1074 = P at *
  field_simp

/-- The ends of the interval are the middles between the magnitude of the rank and those around
it. -/
theorem within_iff (q : ℚ) : Within (.ofRank r) q ↔
    if r % 2 = 0 then
      magnitude (r - 1) + magnitude r ≤ 2 * q ∧ 2 * q ≤ magnitude r + magnitude (r + 1)
    else magnitude (r - 1) + magnitude r < 2 * q ∧ 2 * q < magnitude r + magnitude (r + 1) := by
  have hP : (0 : ℚ) < 2 ^ 1075 := by positivity
  have hbelow := units_eq (r - 1)
  have hself := units_eq r
  have habove := units_eq (r + 1)
  unfold Within Interval.ofRank
  simp only [decide_eq_true_eq, Nat.cast_add]
  generalize (2 : ℚ) ^ 1075 = P at *
  have hlow : (units (r - 1) : ℚ) + units r = (magnitude (r - 1) + magnitude r) / 2 * P := by
    linarith
  have hhigh : (units r : ℚ) + units (r + 1) = (magnitude r + magnitude (r + 1)) / 2 * P := by
    linarith
  rw [hlow, hhigh, mul_le_mul_iff_left₀ hP, mul_le_mul_iff_left₀ hP, mul_lt_mul_iff_left₀ hP,
    mul_lt_mul_iff_left₀ hP, div_le_iff₀' two_pos, le_div_iff₀' two_pos, div_lt_iff₀' two_pos,
    lt_div_iff₀' two_pos]

/-- Of all magnitudes that of the rank is nearest to what lies in the interval. -/
theorem Within.nearest (hr : 0 < r) (h : Within (.ofRank r) q) : Nearest q r := by
  have hlow : magnitude (r - 1) < magnitude r := magnitude_strictMono (by omega)
  have hhigh : magnitude r < magnitude (r + 1) := magnitude_strictMono (Nat.lt_succ_self r)
  -- magnitudes further away than the two neighbours do not compete
  have hfar : ∀ z, z ≠ r → magnitude z ≤ magnitude (r - 1) ∨ magnitude (r + 1) ≤ magnitude z := by
    intro z hz
    rcases Nat.lt_or_gt_of_ne hz with hlt | hgt
    · exact .inl (magnitude_strictMono.monotone (by omega))
    · exact .inr (magnitude_strictMono.monotone hgt)
  have hclosed : magnitude (r - 1) + magnitude r ≤ 2 * q ∧
      2 * q ≤ magnitude r + magnitude (r + 1) := by
    rw [within_iff] at h
    split at h
    · exact h
    · exact ⟨h.1.le, h.2.le⟩
  constructor
  · intro z
    by_cases hz : z = r
    · rw [hz]
    · rcases hfar z hz with hz | hz
      · rw [abs_sub_le_iff]
        have := neg_le_abs (magnitude z - q)
        exact ⟨by linarith, by linarith⟩
      · rw [abs_sub_le_iff]
        have := le_abs_self (magnitude z - q)
        exact ⟨by linarith, by linarith⟩
  · intro z hz htie
    by_contra hodd
    rw [within_iff, if_neg hodd] at h
    rcases hfar z hz with hz | hz
    · have hnear : |magnitude r - q| < |magnitude z - q| := by
        rw [abs_sub_lt_iff]
        have := neg_le_abs (magnitude z - q)
        exact ⟨by linarith, by linarith⟩
      exact absurd htie hnear.ne'
    · have hnear : |magnitude r - q| < |magnitude z - q| := by
        rw [abs_sub_lt_iff]
        have := le_abs_self (magnitude z - q)
        exact ⟨by linarith, by linarith⟩
      exact absurd htie hnear.ne'

/-! ## The digits that are tried -/

/-- Whether a multiple of a power of ten lies in an interval. -/
def Interval.inside (i : Interval) (place : Int) (c : Nat) : Bool :=
  let scale := tens (-place)
  let step := tens place <<< 1075
  if i.closed then i.low * scale ≤ c * step && c * step ≤ i.high * scale
  else i.low * scale < c * step && c * step < i.high * scale

theorem toRat_mul (c : Nat) (place : Int) : (⟨c, place⟩ : Decimal).toRat * (2 : ℚ) ^ 1075
    = (c * (tens place <<< 1075) : Nat) / (tens (-place) : Nat) := by
  rw [toRat_eq_div, Nat.cast_mul, Nat.cast_mul, cast_shiftLeft, div_mul_eq_mul_div, mul_assoc]

theorem inside_iff : i.inside place c = true ↔ Within i (⟨c, place⟩ : Decimal).toRat := by
  have hpos : (0 : ℚ) < (tens (-place) : Nat) := Nat.cast_pos.2 (tens_pos _)
  unfold Interval.inside Within
  rw [toRat_mul]
  generalize tens place <<< 1075 = step
  cases i.closed
  · simp only [Bool.false_eq_true, if_false, Bool.and_eq_true, decide_eq_true_eq]
    rw [lt_div_iff₀ hpos, div_lt_iff₀ hpos]
    norm_cast
  · simp only [if_true, Bool.and_eq_true, decide_eq_true_eq]
    rw [le_div_iff₀ hpos, div_le_iff₀ hpos]
    norm_cast

/-- What is taken of the two neighbours lies in the interval. -/
theorem within_of_neighbour? (h : i.neighbour? place = some c) :
    Within i (⟨c, place⟩ : Decimal).toRat := by
  rw [← inside_iff]
  unfold Interval.neighbour? at h
  dsimp only at h
  split at h
  · -- both lie there, and rounding takes one of them
    rename_i h0 h1
    obtain rfl := Option.some.inj h
    have hcases := halfEven_cases (i.value * tens (-place)) (tens place <<< 1075)
    generalize halfEven (i.value * tens (-place)) (tens place <<< 1075) = c at hcases ⊢
    have hc : c = i.value * tens (-place) / (tens place <<< 1075) ∨
        c = i.value * tens (-place) / (tens place <<< 1075) + 1 := by omega
    rcases hc with rfl | rfl
    · exact h0
    · exact h1
  · rename_i h0 _
    obtain rfl := Option.some.inj h
    exact h0
  · rename_i _ h1
    obtain rfl := Option.some.inj h
    exact h1
  · cases h

theorem exactDecimal_eq (r : Nat) : exactDecimal r = ⟨units r * Nat.pow 5 1074, -1074⟩ := by
  unfold exactDecimal
  show _ = (⟨units r * Nat.pow 5 1074, -(1074 : Nat)⟩ : Decimal)
  -- so that the power is not computed
  generalize 1074 = k
  rfl

/-- The shortest decimal of a number is nearest to it. -/
theorem nearest_decimal (hr : 0 < r) : Nearest (decimal r).toRat r := by
  unfold decimal
  dsimp only
  cases hfind : (List.range 20).findSome? fun n =>
      ((Interval.ofRank r).neighbour? ((Interval.ofRank r).top - Int.ofNat n)).map fun c =>
        (⟨c, (Interval.ofRank r).top - Int.ofNat n⟩ : Decimal) with
  | some m =>
    obtain ⟨n, -, hn⟩ := List.exists_of_findSome?_eq_some hfind
    obtain ⟨c, hc, rfl⟩ := Option.map_eq_some_iff.1 hn
    exact (within_of_neighbour? hc).nearest hr
  | none =>
    rw [Option.getD_none, ← exactDecimal_eq, toRat_exactDecimal]
    exact nearest_magnitude r

/-- The shortest decimal of a finite number is read as that number. -/
theorem rankOf_decimal (hr : 0 < r) (hfin : r < infinityRank) : rankOf (decimal r) = r :=
  ((nearest_iff_eq_rankOf hfin).1 (nearest_decimal hr)).2.symm

/-- Its digits are not all zeros. -/
theorem digits_decimal_ne_zero (hr : 0 < r) : (decimal r).digits ≠ 0 := by
  intro h
  have hnear := nearest_decimal hr
  have hzero : (decimal r).toRat = magnitude 0 := by
    rw [Decimal.toRat, h, magnitude_zero]
    simp
  rw [hzero] at hnear
  have := hnear.unique (nearest_magnitude 0)
  omega

end Listing.Number.Shortest
