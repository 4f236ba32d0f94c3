import Listing.Proofs.Literal

/-!
# Literals without a point

A literal that stands between dots can hold no point. It need not: the text of an integer has none,
digits and an exponent denote any decimal, and a finite binary64 number is a whole number of units
of `10 ^ -1074`. So each is denoted exactly by such a literal (`integerLiteral_toString`,
`denotes_exactDecimal`), a binary64 number with its sign and its last bit.
-/

set_option autoImplicit false

namespace Listing.Number

/-! ## Integers -/

theorem ofDigits_toDigits (n : Nat) : ofDigits (Nat.toDigits 10 n) = n :=
  Nat.ofDigitChars_eq_foldl.symm.trans Nat.ofDigitChars_ten_toDigits

theorem allDigits_toDigits (n : Nat) : AllDigits (Nat.toDigits 10 n) := fun _ hc =>
  Nat.isDigit_of_mem_toDigits (by decide) (by decide) hc

/-- The sign that is written: a minus, if there is any. -/
def minus (negative : Bool) : List Char := if negative then ['-'] else []

theorem sign_minus (negative : Bool) : Sign (minus negative) negative := by
  cases negative
  · exact .absent
  · exact .minus

/-- The text of an integer: its sign if it is negative, and its digits. -/
theorem toList_toString_int (n : Int) :
    (toString n).toList = minus (n < 0) ++ Nat.toDigits 10 n.natAbs := by
  rw [Int.toString_eq_repr, Int.repr_eq_if]
  by_cases hn : n < 0
  · rw [if_neg (by omega), Nat.repr_eq_ofList_toDigits]
    simp [minus, hn, show (-n).toNat = n.natAbs by omega]
  · rw [if_pos (by omega), Nat.repr_eq_ofList_toDigits]
    simp [minus, hn, show n.toNat = n.natAbs by omega]

/-- An integer is denoted by its digits, behind a sign that is a minus just if it is negative. -/
theorem integerLiteral_of_sign {sign : List Char} {n : Int} (hs : Sign sign (n < 0)) :
    IntegerLiteral (sign ++ Nat.toDigits 10 n.natAbs) n := by
  have hvalue : (if decide (n < 0) = true then -(n.natAbs : Int) else n.natAbs) = n := by
    by_cases hn : n < 0
    · rw [if_pos (decide_eq_true hn)]
      omega
    · rw [if_neg (mt of_decide_eq_true hn)]
      omega
  have h := IntegerLiteral.mk hs Nat.toDigits_ne_nil (allDigits_toDigits n.natAbs)
  rwa [ofDigits_toDigits, hvalue] at h

/-- The text of an integer denotes it. -/
theorem integerLiteral_toString (n : Int) : IntegerLiteral (toString n).toList n := by
  rw [toList_toString_int]
  exact integerLiteral_of_sign (sign_minus _)

theorem point_not_mem_toDigits (n : Nat) : '.' ∉ Nat.toDigits 10 n := by
  intro h
  exact absurd (allDigits_toDigits n _ h) (by decide)

theorem point_not_mem_minus (negative : Bool) : '.' ∉ minus negative := by
  cases negative <;> decide

theorem point_not_mem_toString (n : Int) : '.' ∉ (toString n).toList := by
  rw [toList_toString_int, List.mem_append, not_or]
  exact ⟨point_not_mem_minus _, point_not_mem_toDigits _⟩

/-! ## Decimals -/

namespace Decimal

/-- A signed decimal as digits and a power of ten. -/
def written (negative : Bool) (m : Decimal) : String :=
  String.ofList (minus negative ++
    (Nat.toDigits 10 m.digits ++ 'e' :: (toString m.exponent).toList))

theorem decimalLiteral_written (negative : Bool) (m : Decimal) :
    DecimalLiteral (m.written negative).toList negative m := by
  have hm : Magnitude (Nat.toDigits 10 m.digits ++ 'e' :: (toString m.exponent).toList) m := by
    have h := Magnitude.mk (.whole (allDigits_toDigits m.digits)) Nat.toDigits_ne_nil
      (.marked (.inl rfl) (integerLiteral_toString m.exponent))
    rw [ofDigits_toDigits] at h
    simpa using h
  rw [written, String.toList_ofList]
  exact .mk (sign_minus negative) hm

theorem point_not_mem_written (negative : Bool) (m : Decimal) :
    '.' ∉ (m.written negative).toList := by
  have hexponent := point_not_mem_toString m.exponent
  rw [written, String.toList_ofList]
  simpa [point_not_mem_minus, point_not_mem_toDigits] using hexponent

/-- A number of units of a power of one half, as a decimal. -/
theorem toRat_units (u k : Nat) : (⟨u * 5 ^ k, -k⟩ : Decimal).toRat = (u / 2 ^ k : ℚ) := by
  have hten : (10 : ℚ) ^ k = 5 ^ k * 2 ^ k := by
    rw [← mul_pow]
    norm_num
  have hfive : (5 : ℚ) ^ k ≠ 0 := by positivity
  rw [Decimal.toRat, zpow_neg, zpow_natCast, hten]
  push_cast
  field_simp

end Decimal

/-! ## Binary64 numbers -/

namespace Binary64

variable {x : Binary64}

/-- The magnitude of a rank in units of `10 ^ -1074`. -/
def exactDecimal (r : Nat) : Decimal := ⟨units r * 5 ^ 1074, -(1074 : Nat)⟩

theorem toRat_exactDecimal (r : Nat) : (exactDecimal r).toRat = magnitude r :=
  Decimal.toRat_units (units r) 1074

/-- The rank of a magnitude is nearest to it. -/
theorem nearest_magnitude (r : Nat) : Nearest (magnitude r) r where
  le z := by
    rw [sub_self, abs_zero]
    exact abs_nonneg _
  even z hz h := by
    rw [sub_self, abs_zero, abs_eq_zero, sub_eq_zero] at h
    exact absurd (magnitude_strictMono.injective h) hz

/-- A finite number is what its exact decimal denotes. -/
theorem denotes_exactDecimal (h : x.isFinite = true) :
    FieldType.float.Denotes ((exactDecimal x.rank).written x.negative) (.float x) := by
  refine .float (Decimal.decimalLiteral_written x.negative _) h ?_
  rw [toRat_exactDecimal]
  exact nearest_magnitude x.rank

end Binary64

end Listing.Number
