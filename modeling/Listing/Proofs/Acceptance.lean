import Listing.Proofs.Literal
import Listing.Proofs.Number.Places
import Listing.Proofs.Text.LetterCase

/-!
# The texts of values

Which texts are values of a field, said by the numbers that they denote. An integer is in the range
of 64 bits; a decimal of any length is below the point from which the nearest binary64 number is
infinity, so the words for infinity and for no number are no values, and a zero mantissa is one
whatever its exponent (`accepts_literals`).
-/

set_option autoImplicit false

namespace Listing

open Number Binary64 Text

/-- The characters of which values are made: letters and digits, signs, and the point. -/
def IsValueChar (c : Char) : Prop := IsLetterOrDigit c ∨ c = '+' ∨ c = '-' ∨ c = '.'

/-- A check that a text is a value of a type: it passes the literals of the type and nothing
else. -/
structure AcceptsLiterals (accepts : FieldType → String → Bool) : Prop where
  string : ∀ s, accepts .string s = true ↔ ∀ c ∈ s.toList, IsLetterOrDigit c
  integer : ∀ s, accepts .integer s = true ↔
    ∃ n, SpellsInteger s.toList n ∧ -2 ^ 63 ≤ n ∧ n ≤ 2 ^ 63 - 1
  float : ∀ s, accepts .float s = true ↔
    ∃ q, SpellsDecimal s.toList q ∧ |q| < 2 ^ 1024 - 2 ^ 970
  other : ∀ s, accepts .other s = false
  /-- A rank from that of infinity on has the magnitude that it would have in a wider range. -/
  rounding : ∀ s q, SpellsDecimal s.toList q →
    (accepts .float s = true ↔ ∃ r, Nearest |q| r ∧ r < infinityRank)
  zero : ∀ sign body power negative e, Sign sign negative → SpellsMantissa body 0 →
    SpellsPower power e → accepts .float (String.ofList (sign ++ body ++ power)) = true
  words : ∀ sign negative w s, Sign sign negative → w ∈ ["inf", "infinity", "nan"] →
    sameWord s w = true → accepts .float (String.ofList (sign ++ s.toList)) = false
  chars : ∀ t s, accepts t s = true → ∀ c ∈ s.toList, IsValueChar c

variable {s : String} {q : ℚ} {cs sign : List Char} {c : Char} {negative : Bool}

/-! ## Numbers -/

theorem accepts_integer_iff : FieldType.integer.accepts s = true ↔
    ∃ n, SpellsInteger s.toList n ∧ -2 ^ 63 ≤ n ∧ n ≤ 2 ^ 63 - 1 := by
  rw [accepts_iff, FieldType.Literal]
  simp only [spellsInteger_iff, Int.le_sub_one_iff]

theorem accepts_float_iff_lt : FieldType.float.accepts s = true ↔
    ∃ q, SpellsDecimal s.toList q ∧ |q| < overflow := by
  rw [accepts_iff, FieldType.Literal]
  constructor
  · intro h
    obtain ⟨negative, m, hm, hlt⟩ := h
    refine ⟨_, spellsDecimal_iff.2 ⟨negative, m, hm, rfl⟩, ?_⟩
    rwa [abs_signed, abs_of_nonneg (toRat_nonneg m)]
  · intro h
    obtain ⟨q, hq, hlt⟩ := h
    obtain ⟨negative, m, hm, rfl⟩ := spellsDecimal_iff.1 hq
    rw [abs_signed, abs_of_nonneg (toRat_nonneg m)] at hlt
    exact ⟨negative, m, hm, hlt⟩

/-- What a decimal denotes decides whether it is a value. -/
theorem accepts_float_iff_of_spells (h : SpellsDecimal s.toList q) :
    FieldType.float.accepts s = true ↔ |q| < overflow := by
  rw [accepts_float_iff_lt]
  refine ⟨?_, fun hlt => ⟨q, h, hlt⟩⟩
  intro h'
  obtain ⟨q', hq', hlt⟩ := h'
  rwa [h.unique hq']

/-- From the bound on a decimal is rounded to a magnitude past the finite ones. -/
theorem exists_nearest_iff (h : SpellsDecimal s.toList q) :
    (∃ r, Nearest |q| r ∧ r < infinityRank) ↔ |q| < overflow := by
  obtain ⟨negative, m, -, rfl⟩ := spellsDecimal_iff.1 h
  rw [abs_signed, abs_of_nonneg (toRat_nonneg m)]
  constructor
  · intro h
    obtain ⟨r, hn, hr⟩ := h
    exact ((nearest_iff_eq_rankOf hr).1 hn).1
  · intro hlt
    exact ⟨rankOf m, nearest_rankOf hlt, (rankOf_lt_infinityRank_iff m).2 hlt⟩

theorem zero_lt_overflow : 0 < overflow := one_pos.trans one_lt_overflow

/-! ## Words -/

theorem exists_isDigit_of_mantissa {a : ℚ} (h : SpellsMantissa cs a) :
    ∃ c ∈ cs, c.isDigit = true := by
  have hfirst {ds : List Char} (hd : AllDigits ds) (hne : ds ≠ []) : ∃ c ∈ ds, c.isDigit = true :=
    ⟨ds.head hne, List.head_mem hne, hd _ (List.head_mem hne)⟩
  cases h with
  | whole hd hne => exact hfirst hd hne
  | point hd hf hne =>
    rcases hne with hne | hne
    · obtain ⟨c, hc, hdigit⟩ := hfirst hd hne
      exact ⟨c, List.mem_append_left _ hc, hdigit⟩
    · obtain ⟨c, hc, hdigit⟩ := hfirst hf hne
      exact ⟨c, List.mem_append_right _ (List.mem_cons_of_mem _ hc), hdigit⟩

/-- A decimal has a digit. -/
theorem exists_isDigit_of_accepts (h : FieldType.float.accepts s = true) :
    ∃ c ∈ s.toList, c.isDigit = true := by
  obtain ⟨q, ⟨hs, -, ha, -, -⟩, -⟩ := accepts_float_iff_lt.1 h
  obtain ⟨c, hc, hdigit⟩ := exists_isDigit_of_mantissa ha
  refine ⟨c, ?_, hdigit⟩
  rw [hs]
  exact List.mem_append_left _ (List.mem_append_right _ hc)

theorem toLower_of_isDigit (h : c.isDigit = true) : c.toLower = c := by
  refine Char.toLower_eq_of_not_isUpper fun hupper => ?_
  have hletter := (isUpper_iff_toNat.1 hupper).1
  have hdigit : c.toNat ≤ 57 := (Char.isDigit_iff_toNat.1 h).2
  omega

/-- A word without a digit is no decimal, whatever the case of its letters. -/
theorem accepts_word {w : String} (hs : Sign sign negative) (hw : w ∈ ["inf", "infinity", "nan"])
    (h : sameWord s w = true) :
    FieldType.float.accepts (String.ofList (sign ++ s.toList)) = false := by
  have hsign : ∀ c ∈ sign, c.isDigit = false := by cases hs <;> simp
  have hwords : ∀ w ∈ ["inf", "infinity", "nan"], ∀ c ∈ foldCase w, c.isDigit = false := by
    simp [foldCase]
  rw [Bool.eq_false_iff]
  intro haccepts
  obtain ⟨c, hc, hdigit⟩ := exists_isDigit_of_accepts haccepts
  rw [String.toList_ofList, List.mem_append] at hc
  rcases hc with hc | hc
  · rw [hsign c hc] at hdigit
    cases hdigit
  · have hfold : c ∈ foldCase s := List.mem_map.2 ⟨c, hc, toLower_of_isDigit hdigit⟩
    rw [sameWord_iff.1 h] at hfold
    rw [hwords w hw c hfold] at hdigit
    cases hdigit

/-! ## Characters -/

theorem valueChars_of_digits {ds : List Char} (hd : AllDigits ds) : ∀ c ∈ ds, IsValueChar c := by
  intro c hc
  have halphanum : c.isAlphanum = true := by simp [Char.isAlphanum, hd c hc]
  exact .inl ((isAlphanum_iff c).1 halphanum)

theorem valueChars_of_sign (hs : Sign sign negative) : ∀ c ∈ sign, IsValueChar c := by
  cases hs <;> simp [IsValueChar]

theorem valueChars_of_integer {n : ℤ} (h : SpellsInteger cs n) : ∀ c ∈ cs, IsValueChar c := by
  obtain ⟨rfl, hs, -, hd, -⟩ := h
  exact List.forall_mem_append.2 ⟨valueChars_of_sign hs, valueChars_of_digits hd⟩

theorem valueChars_of_mantissa {a : ℚ} (h : SpellsMantissa cs a) : ∀ c ∈ cs, IsValueChar c := by
  cases h with
  | whole hd => exact valueChars_of_digits hd
  | point hd hf =>
    have hpoint : IsValueChar '.' := .inr (.inr (.inr rfl))
    refine List.forall_mem_append.2 ⟨valueChars_of_digits hd, ?_⟩
    exact List.forall_mem_cons.2 ⟨hpoint, valueChars_of_digits hf⟩

theorem valueChars_of_power {e : ℤ} (h : SpellsPower cs e) : ∀ c ∈ cs, IsValueChar c := by
  cases h with
  | absent => simp
  | marked hc he =>
    refine List.forall_mem_cons.2 ⟨.inl ((isAlphanum_iff _).1 ?_), valueChars_of_integer he⟩
    rcases hc with rfl | rfl <;> decide

/-- Values are made of a few characters of ASCII alone. -/
theorem valueChars_of_accepts {t : FieldType} (h : t.accepts s = true) :
    ∀ c ∈ s.toList, IsValueChar c := by
  cases t with
  | string => exact fun c hc => .inl (accepts_iff.1 h c hc)
  | integer =>
    obtain ⟨n, hn, -⟩ := accepts_integer_iff.1 h
    exact valueChars_of_integer hn
  | float =>
    obtain ⟨q, ⟨hcs, hs, ha, hp, -⟩, -⟩ := accepts_float_iff_lt.1 h
    rw [hcs]
    refine List.forall_mem_append.2 ⟨?_, valueChars_of_power hp⟩
    exact List.forall_mem_append.2 ⟨valueChars_of_sign hs, valueChars_of_mantissa ha⟩
  | other => cases h

/-- The check of values passes exactly the literals of each type, at every length. -/
theorem accepts_literals : AcceptsLiterals FieldType.accepts where
  string _ := accepts_iff
  integer _ := accepts_integer_iff
  float _ := accepts_float_iff_lt
  other _ := rfl
  rounding _ _ h := (accepts_float_iff_of_spells h).trans (exists_nearest_iff h).symm
  zero sign body power negative e hs hbody hpower := by
    have hspells : SpellsDecimal (String.ofList (sign ++ body ++ power)).toList 0 := by
      rw [String.toList_ofList]
      refine .mk rfl hs hbody hpower ?_
      cases negative <;> simp [signed]
    rw [accepts_float_iff_of_spells hspells, abs_zero]
    exact zero_lt_overflow
  words _ _ _ _ := accepts_word
  chars _ _ := valueChars_of_accepts

example : FieldType.integer.accepts "-9223372036854775808" = true := by decide

example : FieldType.integer.accepts "9223372036854775808" = false := by decide

end Listing
