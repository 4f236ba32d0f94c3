import Listing.Proofs.Number.Grammar
import Listing.Proofs.Number.Nearest

/-!
# Numbers by the places of their digits

`SpellsInteger cs n` and `SpellsDecimal cs q`: the text `cs` is an integer or a decimal, and `n` or
the rational `q` is what it denotes, each digit counting by the place it stands at. These are the
texts of the grammar, and what the grammar reads from them is what they denote (`spellsInteger_iff`,
`spellsDecimal_iff`).
-/

set_option autoImplicit false

namespace Listing.Number

/-- The number that digits denote, the last one being that of the units. -/
def placeValue (ds : List Char) : ℕ := Nat.ofDigits 10 (ds.reverse.map digitValue)

/-- A number behind a sign. -/
def signed {R : Type} [Neg R] (negative : Bool) (a : R) : R := if negative then -a else a

/-- At most one sign, and one or more digits. -/
inductive SpellsInteger (cs : List Char) (n : ℤ) : Prop
  | mk {sign ds : List Char} {negative : Bool} : cs = sign ++ ds → Sign sign negative → ds ≠ [] →
      AllDigits ds → n = signed negative (placeValue ds : ℤ) → SpellsInteger cs n

/-- Nothing, or an `e` of either case and an integer, which is the exponent of a power of ten. -/
inductive SpellsPower : List Char → ℤ → Prop
  | absent : SpellsPower [] 0
  | marked {c : Char} {cs : List Char} {e : ℤ} : c = 'e' ∨ c = 'E' → SpellsInteger cs e →
      SpellsPower (c :: cs) e

/-- One or more digits, with at most one point among them. -/
inductive SpellsMantissa : List Char → ℚ → Prop
  | whole {ds : List Char} : AllDigits ds → ds ≠ [] → SpellsMantissa ds (placeValue ds)
  | point {ds fs : List Char} : AllDigits ds → AllDigits fs → ds ≠ [] ∨ fs ≠ [] →
      SpellsMantissa (ds ++ '.' :: fs) (placeValue ds + placeValue fs / 10 ^ fs.length)

/-- At most one sign, digits with at most one point among them, and perhaps a power of ten. -/
inductive SpellsDecimal (cs : List Char) (q : ℚ) : Prop
  | mk {sign body power : List Char} {negative : Bool} {a : ℚ} {e : ℤ} :
      cs = sign ++ body ++ power → Sign sign negative → SpellsMantissa body a →
      SpellsPower power e → q = signed negative (a * 10 ^ e) → SpellsDecimal cs q

variable {cs body power : List Char} {n e : ℤ} {q q' : ℚ}

/-! ## Digits -/

/-- Reading digits from the left gives each its place. -/
theorem ofDigits_eq_placeValue (ds : List Char) : ofDigits ds = placeValue ds := by
  induction ds using List.reverseRecOn with
  | nil => rfl
  | append_singleton ds d ih =>
    rw [ofDigits_concat, ih, placeValue, placeValue, List.reverse_append, List.reverse_singleton,
      List.singleton_append, List.map_cons, Nat.ofDigits_cons, Nat.add_comm]

theorem abs_signed (negative : Bool) (a : ℚ) : |signed negative a| = |a| := by
  cases negative
  · rfl
  · exact abs_neg a

/-! ## Integers -/

theorem spellsInteger_iff : SpellsInteger cs n ↔ IntegerLiteral cs n := by
  constructor
  · intro h
    obtain ⟨rfl, hs, hne, hd, rfl⟩ := h
    rw [← ofDigits_eq_placeValue]
    exact .mk hs hne hd
  · intro h
    obtain ⟨hs, hne, hd⟩ := h
    refine .mk rfl hs hne hd ?_
    rw [← ofDigits_eq_placeValue]
    rfl

theorem spellsPower_iff : SpellsPower power e ↔ Power power e := by
  constructor
  · intro h
    cases h with
    | absent => exact .absent
    | marked hc he => exact .marked hc (spellsInteger_iff.1 he)
  · intro h
    cases h with
    | absent => exact .absent
    | marked hc he => exact .marked hc (spellsInteger_iff.2 he)

/-! ## Decimals -/

/-- Digits behind the point count for tenths, and the last of them for as many tenths of tenths as
there are digits. -/
theorem spellsMantissa_iff {a : ℚ} : SpellsMantissa body a ↔
    ∃ ds places, Mantissa body ds places ∧ ds ≠ [] ∧ a = ofDigits ds / 10 ^ places := by
  have hpos (k : ℕ) : (10 : ℚ) ^ k ≠ 0 := by positivity
  have hpoint (ds fs : List Char) : (placeValue ds + placeValue fs / 10 ^ fs.length : ℚ) =
      ofDigits (ds ++ fs) / 10 ^ fs.length := by
    rw [ofDigits_append, ofDigits_eq_placeValue, ofDigits_eq_placeValue, Nat.cast_add,
      Nat.cast_mul, Nat.cast_pow, Nat.cast_ofNat, add_div, mul_div_cancel_right₀ _ (hpos _)]
  constructor
  · intro h
    cases h with
    | whole hd hne =>
      refine ⟨body, 0, .whole hd, hne, ?_⟩
      rw [pow_zero, div_one, ofDigits_eq_placeValue]
    | @point ds fs hd hf hne =>
      refine ⟨ds ++ fs, fs.length, .point hd hf, ?_, hpoint ds fs⟩
      rwa [ne_eq, List.append_eq_nil_iff, not_and_or]
  · intro h
    obtain ⟨ds, places, hm, hne, rfl⟩ := h
    cases hm with
    | whole hd =>
      rw [pow_zero, div_one, ofDigits_eq_placeValue]
      exact .whole hd hne
    | point hd hf =>
      rw [← hpoint]
      rw [ne_eq, List.append_eq_nil_iff, not_and_or] at hne
      exact .point hd hf hne

theorem toRat_shifted (ds : List Char) (places : ℕ) (e : ℤ) :
    (⟨ofDigits ds, e - places⟩ : Decimal).toRat = ofDigits ds / 10 ^ places * 10 ^ e := by
  rw [Decimal.toRat, zpow_sub₀ (by norm_num), zpow_natCast]
  ring

theorem spellsDecimal_iff : SpellsDecimal cs q ↔
    ∃ negative m, DecimalLiteral cs negative m ∧ q = signed negative m.toRat := by
  constructor
  · intro h
    obtain ⟨rfl, hs, ha, hp, rfl⟩ := h
    obtain ⟨ds, places, hm, hne, rfl⟩ := spellsMantissa_iff.1 ha
    have hmagnitude := Magnitude.mk hm hne (spellsPower_iff.1 hp)
    rw [List.append_assoc, ← toRat_shifted]
    exact ⟨_, _, .mk hs hmagnitude, rfl⟩
  · intro h
    obtain ⟨negative, m, ⟨hs, hm, hne, hp⟩, rfl⟩ := h
    have ha := spellsMantissa_iff.2 ⟨_, _, hm, hne, rfl⟩
    refine .mk (List.append_assoc ..).symm hs ha (spellsPower_iff.2 hp) ?_
    rw [toRat_shifted]

/-- A text denotes one number. -/
theorem SpellsDecimal.unique {s : String} (h : SpellsDecimal s.toList q)
    (h' : SpellsDecimal s.toList q') : q = q' := by
  obtain ⟨negative, m, hm, rfl⟩ := spellsDecimal_iff.1 h
  obtain ⟨negative', m', hm', rfl⟩ := spellsDecimal_iff.1 h'
  rw [← Literal.read?_eq_decimal_iff] at hm hm'
  cases hm.symm.trans hm'
  rfl

end Listing.Number
