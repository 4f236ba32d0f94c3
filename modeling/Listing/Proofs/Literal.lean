import Listing.Proofs.Number.Grammar
import Listing.Proofs.Number.Nearest
import Listing.Value

/-!
# Literals of the field types

`FieldType.Literal t s`: the text `s` is a value of the type `t` as the grammar of numbers has it;
`FieldType.Denotes t s v`: the number `v` is what it denotes, an integer exactly, a decimal rounded
to the nearest binary64 number. The check of values accepts exactly the literals (`accepts_iff`),
and the value bound for a numeric literal is the number it denotes (`denotes_iff`).
-/

set_option autoImplicit false

namespace Listing

open Number Binary64

def IsLetterOrDigit (c : Char) : Prop :=
  ('A' ≤ c ∧ c ≤ 'Z') ∨ ('a' ≤ c ∧ c ≤ 'z') ∨ ('0' ≤ c ∧ c ≤ '9')

namespace FieldType

/-- The literals of a type: letters and digits; an integer of 64 bits; a decimal that is not rounded
to infinity. -/
def Literal : FieldType → String → Prop
  | .string, s => ∀ c ∈ s.toList, IsLetterOrDigit c
  | .integer, s => ∃ n : Int, IntegerLiteral s.toList n ∧ -2 ^ 63 ≤ n ∧ n < 2 ^ 63
  | .float, s => ∃ negative m, DecimalLiteral s.toList negative m ∧ m.toRat < 2 ^ 1024 - 2 ^ 970
  | .other, _ => False

/-- The number a literal of a numeric type denotes. -/
inductive Denotes : FieldType → String → Value → Prop
  | integer {s : String} {n : Int} : IntegerLiteral s.toList n → -2 ^ 63 ≤ n → n < 2 ^ 63 →
      Denotes .integer s (.integer n)
  | float {s : String} {m : Decimal} {x : Binary64} : DecimalLiteral s.toList x.negative m →
      x.isFinite = true → Nearest m.toRat x.rank → Denotes .float s (.float x)

end FieldType

variable {s : String} {t : FieldType} {v : Value}

theorem isAlphanum_iff (c : Char) : c.isAlphanum = true ↔ IsLetterOrDigit c := by
  simp only [Char.isAlphanum, Char.isAlpha, Char.isUpper, Char.isLower, Char.isDigit,
    Bool.or_eq_true, Bool.and_eq_true, decide_eq_true_eq, ge_iff_le, or_assoc]
  exact Iff.rfl

/-- A text is read as a finite number iff it is a decimal that is rounded to a finite rank. -/
theorem read?_finite_iff {x : Binary64} :
    Binary64.read? s = some x ∧ x.isFinite = true ↔
      ∃ m, DecimalLiteral s.toList x.negative m ∧ x.rank = rankOf m ∧ m.toRat < overflow := by
  simp only [← Literal.read?_eq_decimal_iff, ← rankOf_lt_infinityRank_iff, Binary64.read?,
    Option.bind_eq_some_iff]
  constructor
  · intro h
    obtain ⟨⟨l, hl, hx⟩, hfin⟩ := h
    cases l with
    | decimal negative m =>
      obtain rfl := Option.some.inj hx
      exact ⟨m, hl, rfl, of_decide_eq_true hfin⟩
    | infinite negative =>
      obtain rfl := Option.some.inj hx
      exact absurd hfin (by simp [isFinite, infinity])
    | notANumber => simp [ofLiteral?] at hx
  · intro h
    obtain ⟨m, hl, hr, hfin⟩ := h
    refine ⟨⟨_, hl, ?_⟩, by simpa [isFinite, hr] using hfin⟩
    cases x
    simp_all [ofLiteral?, ofDecimal]

theorem accepts_float_iff : FieldType.float.accepts s = true ↔
    ∃ x, Binary64.read? s = some x ∧ x.isFinite = true := by
  simp [FieldType.accepts, Option.any_eq_true]

/-- The texts accepted for a type are its literals. -/
theorem accepts_iff : t.accepts s = true ↔ t.Literal s := by
  cases t with
  | string => simp [FieldType.accepts, FieldType.Literal, isAlphanum_iff]
  | integer =>
    simp only [FieldType.accepts, FieldType.Literal, Option.isSome_iff_exists, int64?_eq_some_iff]
  | float =>
    simp only [accepts_float_iff, read?_finite_iff, FieldType.Literal]
    constructor
    · intro h
      obtain ⟨x, m, hm, -, hlt⟩ := h
      exact ⟨x.negative, m, hm, hlt⟩
    · intro h
      obtain ⟨negative, m, hm, hlt⟩ := h
      exact ⟨ofDecimal negative m, m, hm, rfl, hlt⟩
  | other => simp [FieldType.accepts, FieldType.Literal]

/-- A type that has literals and is not that of texts is numeric. -/
theorem FieldType.Literal.numeric (h : t.Literal s) (ht : t ≠ .string) :
    t = .integer ∨ t = .float := by
  cases t with
  | string => exact absurd rfl ht
  | integer => exact .inl rfl
  | float => exact .inr rfl
  | other => exact h.elim

theorem denotes_integer_iff : FieldType.integer.Denotes s v ↔
    ∃ n, int64? s = some n ∧ v = .integer n := by
  simp only [int64?_eq_some_iff]
  constructor
  · intro h
    obtain ⟨hn, hl, hh⟩ := h
    exact ⟨_, ⟨hn, hl, hh⟩, rfl⟩
  · intro h
    obtain ⟨n, ⟨hn, hl, hh⟩, rfl⟩ := h
    exact .integer hn hl hh

theorem denotes_float_iff : FieldType.float.Denotes s v ↔
    ∃ x, (Binary64.read? s = some x ∧ x.isFinite = true) ∧ v = .float x := by
  simp only [read?_finite_iff]
  refine ⟨fun h => ?_, ?_⟩
  · cases h with
    | float hm hfin hn =>
      obtain ⟨hlt, hr⟩ := (nearest_iff_eq_rankOf (of_decide_eq_true hfin)).1 hn
      exact ⟨_, ⟨_, hm, hr, hlt⟩, rfl⟩
  · intro h
    obtain ⟨x, ⟨m, hm, hr, hlt⟩, rfl⟩ := h
    have hfin : x.rank < infinityRank := hr ▸ (rankOf_lt_infinityRank_iff m).2 hlt
    exact .float hm (decide_eq_true hfin) ((nearest_iff_eq_rankOf hfin).2 ⟨hlt, hr⟩)

/-- The bound value of a numeric literal is the number it denotes. -/
theorem denotes_iff : t.Denotes s v ↔
    (t = .integer ∨ t = .float) ∧ t.accepts s = true ∧ Value.ofText t s = v := by
  cases t with
  | integer =>
    rw [denotes_integer_iff]
    cases h : int64? s <;> simp [FieldType.accepts, Value.ofText, h, eq_comm]
  | float =>
    rw [denotes_float_iff, accepts_float_iff]
    constructor
    · intro h
      obtain ⟨x, ⟨hx, hfin⟩, rfl⟩ := h
      exact ⟨.inr rfl, ⟨x, hx, hfin⟩, by simp [Value.ofText, hx]⟩
    · intro h
      obtain ⟨-, ⟨x, hx, hfin⟩, rfl⟩ := h
      exact ⟨x, ⟨hx, hfin⟩, by simp [Value.ofText, hx]⟩
  | string => exact iff_of_false (by rintro ⟨⟩) (by simp)
  | other => exact iff_of_false (by rintro ⟨⟩) (by simp)

end Listing
