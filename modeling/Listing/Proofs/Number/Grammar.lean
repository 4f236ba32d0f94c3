import Listing.Number.Decimal
import Mathlib

/-!
# The grammar of numbers

What the readers of numbers accept, said as a grammar: `IntegerLiteral cs n`, the text `cs` is an
optional sign and one or more digits and denotes the integer `n`; `DecimalLiteral cs b m`, it is an
optional sign, digits with at most one point among them and an optional power of ten, and denotes
the decimal `m`, negated if `b`. `integer?_eq_some_iff` and `Literal.read?_eq_decimal_iff` say that
the readers accept these texts, with these meanings, and no others.
-/

set_option autoImplicit false

namespace Listing.Number

/-- At most one sign, and whether it is a minus. -/
inductive Sign : List Char → Bool → Prop
  | absent : Sign [] false
  | plus : Sign ['+'] false
  | minus : Sign ['-'] true

def AllDigits (ds : List Char) : Prop := ∀ d ∈ ds, d.isDigit = true

/-- An integer in decimal. -/
inductive IntegerLiteral : List Char → Int → Prop
  | mk {sign ds : List Char} {negative : Bool} : Sign sign negative → ds ≠ [] → AllDigits ds →
      IntegerLiteral (sign ++ ds) (if negative then -(ofDigits ds : Int) else ofDigits ds)

/-- Digits with at most one point among them: the digits, and how many of them follow the point. -/
inductive Mantissa : List Char → List Char → Nat → Prop
  | whole {ds : List Char} : AllDigits ds → Mantissa ds ds 0
  | point {ds fs : List Char} : AllDigits ds → AllDigits fs →
      Mantissa (ds ++ '.' :: fs) (ds ++ fs) fs.length

/-- A power of ten behind the digits, or nothing. -/
inductive Power : List Char → Int → Prop
  | absent : Power [] 0
  | marked {c : Char} {cs : List Char} {e : Int} : c = 'e' ∨ c = 'E' → IntegerLiteral cs e →
      Power (c :: cs) e

/-- A decimal without its sign. -/
inductive Magnitude : List Char → Decimal → Prop
  | mk {body ds power : List Char} {places : Nat} {e : Int} : Mantissa body ds places → ds ≠ [] →
      Power power e → Magnitude (body ++ power) ⟨ofDigits ds, e - places⟩

/-- A decimal with its sign. -/
inductive DecimalLiteral : List Char → Bool → Decimal → Prop
  | mk {sign cs : List Char} {negative : Bool} {m : Decimal} : Sign sign negative →
      Magnitude cs m → DecimalLiteral (sign ++ cs) negative m

variable {cs ds : List Char} {c : Char} {n : Int} {m : Decimal}

/-! ## Integers -/

theorem ofDigits_append (ds fs : List Char) :
    ofDigits (ds ++ fs) = ofDigits ds * 10 ^ fs.length + ofDigits fs := by
  induction fs using List.reverseRecOn with
  | nil => simp
  | append_singleton fs f ih =>
    rw [← List.append_assoc, ofDigits_concat, ofDigits_concat, ih, List.length_append,
      List.length_singleton, pow_succ]
    ring

theorem ofDigits_zeros (k : Nat) : ofDigits (List.replicate k '0') = 0 := by
  induction k with
  | zero => rfl
  | succ k ih => rw [List.replicate_succ', ofDigits_concat, ih]; rfl

theorem allDigits_zeros (k : Nat) : AllDigits (List.replicate k '0') := by
  intro c hc
  rw [List.eq_of_mem_replicate hc]
  rfl

theorem AllDigits.append {fs : List Char} (hd : AllDigits ds) (hf : AllDigits fs) :
    AllDigits (ds ++ fs) := by
  intro c hc
  rcases List.mem_append.1 hc with hc | hc
  · exact hd c hc
  · exact hf c hc

theorem isDigits_iff : isDigits cs = true ↔ cs ≠ [] ∧ AllDigits cs := by
  simp [isDigits, AllDigits]

theorem natural?_eq_some_iff {k : Nat} :
    natural? cs = some k ↔ cs ≠ [] ∧ AllDigits cs ∧ k = ofDigits cs := by
  rw [natural?, Option.ite_none_right_eq_some, isDigits_iff, Option.some.injEq, and_assoc,
    eq_comm (a := k)]

theorem natural?_of_digits (hne : ds ≠ []) (hd : AllDigits ds) :
    natural? ds = some (ofDigits ds) := natural?_eq_some_iff.2 ⟨hne, hd, rfl⟩

theorem AllDigits.head (hd : AllDigits (c :: cs)) : c.isDigit = true := hd c List.mem_cons_self

theorem ne_sign_of_isDigit (h : c.isDigit = true) : c ≠ '+' ∧ c ≠ '-' := by
  constructor <;> rintro rfl <;> exact absurd h (by decide)

theorem integer?_of_digits (hne : ds ≠ []) (hd : AllDigits ds) :
    integer? ds = some (ofDigits ds : Int) := by
  obtain ⟨d, ds, rfl⟩ := List.exists_cons_of_ne_nil hne
  obtain ⟨hp, hm⟩ := ne_sign_of_isDigit hd.head
  unfold integer?
  split
  · rename_i h; exact absurd (List.cons.inj h).1 hp
  · rename_i h; exact absurd (List.cons.inj h).1 hm
  · rw [natural?_of_digits hne hd]; rfl

theorem integer?_eq_some_iff : integer? cs = some n ↔ IntegerLiteral cs n := by
  refine ⟨fun h => ?_, ?_⟩
  · unfold integer? at h
    split at h
    · obtain ⟨k, hk, rfl⟩ := Option.map_eq_some_iff.1 h
      obtain ⟨hne, hd, rfl⟩ := natural?_eq_some_iff.1 hk
      exact .mk .plus hne hd
    · obtain ⟨k, hk, rfl⟩ := Option.map_eq_some_iff.1 h
      obtain ⟨hne, hd, rfl⟩ := natural?_eq_some_iff.1 hk
      exact .mk .minus hne hd
    · obtain ⟨k, hk, rfl⟩ := Option.map_eq_some_iff.1 h
      obtain ⟨hne, hd, rfl⟩ := natural?_eq_some_iff.1 hk
      exact .mk .absent hne hd
  · intro h
    obtain ⟨hs, hne, hd⟩ := h
    cases hs with
    | absent => simpa using integer?_of_digits hne hd
    | plus => simp [integer?, natural?_of_digits hne hd]
    | minus => simp [integer?, natural?_of_digits hne hd]

/-- The text of a signed 64-bit integer and nothing else is read as one. -/
theorem int64?_eq_some_iff {s : String} : int64? s = some n ↔
    IntegerLiteral s.toList n ∧ -2 ^ 63 ≤ n ∧ n < 2 ^ 63 := by
  simp [int64?, Option.filter_eq_some_iff, integer?_eq_some_iff, fitsInt64]

/-! ## Decimals -/

theorem exponent?_eq_some_iff {e : Int} : exponent? cs = some e ↔ Power cs e := by
  refine ⟨fun h => ?_, ?_⟩
  · cases cs with
    | nil =>
      obtain rfl : 0 = e := Option.some.inj h
      exact .absent
    | cons c cs =>
      obtain ⟨hc, h⟩ := Option.ite_none_right_eq_some.1 h
      exact .marked (by simpa using hc) (integer?_eq_some_iff.1 h)
  · rintro (_ | ⟨hc, hi⟩)
    · rfl
    · simp [exponent?, hc, integer?_eq_some_iff.2 hi]

theorem AllDigits.takeWhile_append (hd : AllDigits ds) (rest : List Char) :
    (ds ++ rest).takeWhile Char.isDigit = ds ++ rest.takeWhile Char.isDigit :=
  List.takeWhile_append_of_pos hd

theorem AllDigits.dropWhile_append (hd : AllDigits ds) (rest : List Char) :
    (ds ++ rest).dropWhile Char.isDigit = rest.dropWhile Char.isDigit :=
  List.dropWhile_append_of_pos hd

theorem allDigits_takeWhile (cs : List Char) : AllDigits (cs.takeWhile Char.isDigit) :=
  fun _ h => List.mem_takeWhile_imp h

/-- What follows the digits of a decimal begins neither with a digit nor with a point. -/
theorem Power.takeWhile_eq_nil {e : Int} (h : Power cs e) : cs.takeWhile Char.isDigit = [] := by
  rcases h with _ | ⟨rfl | rfl, -⟩ <;> rfl

theorem Power.dropWhile_eq_self {e : Int} (h : Power cs e) : cs.dropWhile Char.isDigit = cs := by
  rcases h with _ | ⟨rfl | rfl, -⟩ <;> rfl

theorem Power.ne_point {e : Int} (h : Power cs e) (more : List Char) : cs ≠ '.' :: more := by
  intro h
  subst h
  rcases h with _ | ⟨h | h, -⟩ <;> exact absurd h (by decide)

theorem Decimal.read?_of_point {more : List Char} (h : cs.dropWhile Char.isDigit = '.' :: more) :
    Decimal.read? cs =
      let whole := cs.takeWhile Char.isDigit
      let fraction := more.takeWhile Char.isDigit
      if whole ++ fraction = [] then none
      else (exponent? (more.dropWhile Char.isDigit)).map fun e =>
        ⟨ofDigits (whole ++ fraction), e - fraction.length⟩ := by
  simp [Decimal.read?, h]

theorem Decimal.read?_of_no_point (h : ∀ more, cs.dropWhile Char.isDigit ≠ '.' :: more) :
    Decimal.read? cs =
      let whole := cs.takeWhile Char.isDigit
      if whole = [] then none
      else (exponent? (cs.dropWhile Char.isDigit)).map fun e => ⟨ofDigits whole, e⟩ := by
  unfold Decimal.read?
  split
  rename_i fraction rest hm
  split at hm
  · rename_i more hp; exact absurd hp (h more)
  · obtain ⟨rfl, rfl⟩ := Prod.mk.inj hm
    simp

theorem read?_of_magnitude (h : Magnitude cs m) : Decimal.read? cs = some m := by
  obtain ⟨hb, hne, hp⟩ := h
  rename_i power _ e
  cases hb with
  | whole hd =>
    have hdrop := hd.dropWhile_append power
    rw [hp.dropWhile_eq_self] at hdrop
    rw [Decimal.read?_of_no_point (by rw [hdrop]; exact hp.ne_point), hdrop,
      hd.takeWhile_append, hp.takeWhile_eq_nil, exponent?_eq_some_iff.2 hp]
    simp [hne]
  | @point ds fs hd hf =>
    have hdrop : (ds ++ '.' :: fs ++ power).dropWhile Char.isDigit = '.' :: (fs ++ power) := by
      rw [List.append_assoc, hd.dropWhile_append]; rfl
    have htake : (ds ++ '.' :: fs ++ power).takeWhile Char.isDigit = ds := by
      rw [List.append_assoc, hd.takeWhile_append]; simp
    rw [Decimal.read?_of_point hdrop, htake, hf.takeWhile_append, hp.takeWhile_eq_nil,
      hf.dropWhile_append, hp.dropWhile_eq_self, exponent?_eq_some_iff.2 hp]
    simpa using hne

/-- The decimals without a sign that are read are those of the grammar. -/
theorem Decimal.read?_eq_some_iff : Decimal.read? cs = some m ↔ Magnitude cs m := by
  refine ⟨fun h => ?_, read?_of_magnitude⟩
  have hcs : cs.takeWhile Char.isDigit ++ cs.dropWhile Char.isDigit = cs := by simp
  by_cases hp : ∃ more, cs.dropWhile Char.isDigit = '.' :: more
  · obtain ⟨more, hp⟩ := hp
    rw [Decimal.read?_of_point hp] at h
    obtain ⟨hne, h⟩ := Option.ite_none_left_eq_some.1 h
    obtain ⟨e, he, rfl⟩ := Option.map_eq_some_iff.1 h
    have := Magnitude.mk (.point (allDigits_takeWhile cs) (allDigits_takeWhile more)) hne
      (exponent?_eq_some_iff.1 he)
    rw [List.append_assoc, List.cons_append, List.takeWhile_append_dropWhile, ← hp, hcs] at this
    exact this
  · rw [Decimal.read?_of_no_point fun more hm => hp ⟨more, hm⟩] at h
    obtain ⟨hne, h⟩ := Option.ite_none_left_eq_some.1 h
    obtain ⟨e, he, rfl⟩ := Option.map_eq_some_iff.1 h
    have := Magnitude.mk (.whole (allDigits_takeWhile cs)) hne (exponent?_eq_some_iff.1 he)
    rw [hcs] at this
    simpa using this

theorem unsigned?_eq_decimal_iff {b b' : Bool} :
    unsigned? b cs = some (.decimal b' m) ↔ b' = b ∧ Magnitude cs m := by
  rw [← Decimal.read?_eq_some_iff]
  unfold unsigned?
  cases Decimal.read? cs with
  | some d => simp [eq_comm]
  | none =>
    dsimp only
    split
    · simp
    · split <;> simp

/-- A magnitude begins with no sign. -/
theorem Magnitude.ne_sign (h : Magnitude (c :: cs) m) : c ≠ '+' ∧ c ≠ '-' := by
  have h := read?_of_magnitude h
  constructor <;> rintro rfl
  · rw [Decimal.read?_of_no_point (by simp)] at h
    simp at h
  · rw [Decimal.read?_of_no_point (by simp)] at h
    simp at h

/-- The texts read as decimals are those of the grammar. -/
theorem Literal.read?_eq_decimal_iff {s : String} {b : Bool} :
    Literal.read? s = some (.decimal b m) ↔ DecimalLiteral s.toList b m := by
  unfold Literal.read?
  generalize s.toList = cs
  refine ⟨fun h => ?_, ?_⟩
  · split at h
    all_goals obtain ⟨rfl, hm⟩ := unsigned?_eq_decimal_iff.1 h
    · exact .mk .plus hm
    · exact .mk .minus hm
    · exact .mk .absent hm
  · intro h
    obtain ⟨hs, hm⟩ := h
    cases hs with
    | plus => exact unsigned?_eq_decimal_iff.2 ⟨rfl, hm⟩
    | minus => exact unsigned?_eq_decimal_iff.2 ⟨rfl, hm⟩
    | absent =>
      rename_i cs
      rw [List.nil_append]
      split
      · exact absurd rfl hm.ne_sign.1
      · exact absurd rfl hm.ne_sign.2
      · exact unsigned?_eq_decimal_iff.2 ⟨rfl, hm⟩

end Listing.Number
