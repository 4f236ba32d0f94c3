import Listing.Proofs.Filter.Language
import Listing.Proofs.Number.Exact
import Listing.Proofs.SortOrder
import Listing.Proofs.Text.LetterCase

/-!
# What can be asked for

A scalar field whose name can stand before a dot can be compared with every value of its type, a
binary64 number bit for bit, and sorted in both directions (`Askable`); a field of another type or
name can be neither filtered nor sorted by any text (`Unaskable`). The two are told apart by
`expressible`.
-/

set_option autoImplicit false

namespace Listing

open Text Number Listing.Filter

/-- Every value of its type can be asked of the field, by some text. -/
structure Askable (schema : Schema) (d : Schema.Field) : Prop where
  contains : d.type = .string → ∀ v, v ≠ "" → (∀ c ∈ v.toList, IsLetterOrDigit c) →
    ∃ x p, Filter.compile schema x = .ok (some p) ∧ p.field = d ∧
      p.fragment = d.name ++ " LIKE ?" ∧ p.boundText = "%" ++ v ++ "%"
  integer : d.type = .integer → ∀ (op : Operator) (n : Int), -2 ^ 63 ≤ n → n < 2 ^ 63 →
    ∃ x p, Filter.compile schema x = .ok (some p) ∧ p.field = d ∧
      p.fragment = d.name ++ " " ++ op.symbol ++ " ?" ∧ p.value = .integer n
  float : d.type = .float → ∀ (op : Operator) (y : Binary64), y.isFinite = true →
    ∃ x p, Filter.compile schema x = .ok (some p) ∧ p.field = d ∧
      p.fragment = d.name ++ " " ++ op.symbol ++ " ?" ∧ p.value = .float y
  sorted : ∀ direction : Direction, ∃ x o, SortOrder.compile schema x = .ok (some o) ∧ o.field = d ∧
    o.fragment = d.name ++ " " ++ direction.text

/-- No text filters or sorts by the field, nor by one of its name in another case. -/
structure Unaskable (schema : Schema) (d : Schema.Field) : Prop where
  filter : ∀ x p, Filter.compile schema x = .ok (some p) → sameWord p.field.name d.name = false
  sorted : ∀ x o, SortOrder.compile schema x = .ok (some o) → sameWord o.field.name d.name = false

variable {schema : Schema} {d : Schema.Field} {x v : String} {op : Operator} {w : Value}

/-! ## Texts for a field that can be named -/

theorem segment_of_letters (hne : v ≠ "") (hv : ∀ c ∈ v.toList, IsLetterOrDigit c) : Segment v := by
  refine ⟨hne, fun hdot => ?_⟩
  have h := (isAlphanum_iff '.').2 (hv '.' hdot)
  exact absurd h (by decide)

theorem Filter.compile_contains (hname : Segment d.name) (hd : schema.resolve d.name = some d)
    (ht : d.type = .string) (hne : v ≠ "") (hv : ∀ c ∈ v.toList, IsLetterOrDigit c) :
    Filter.compile schema (Expression.contains d.name v).render = .ok (some ⟨d, .contains, v⟩) := by
  have hl : d.type.accepts v = true := accepts_iff.2 (by rw [ht]; exact hv)
  rw [Filter.compile_eq_some_iff]
  exact ⟨_, parse_render hname (segment_of_letters hne hv), hd, rfl, rfl, ⟨by simp [ht], hl⟩⟩

/-- A filter with a literal that denotes a number binds that number. -/
theorem Filter.compile_compare (op : Operator) (hname : Segment d.name)
    (hd : schema.resolve d.name = some d) (hv : Segment v) (hw : d.type.Denotes v w) :
    ∃ p, Filter.compile schema (Expression.compare d.name op v).render = .ok (some p) ∧
      p.field = d ∧ p.fragment = d.name ++ " " ++ op.symbol ++ " ?" ∧ p.value = w := by
  obtain ⟨ht, hl, hvalue⟩ := denotes_iff.1 hw
  have hns : d.type ≠ .string := by rcases ht with ht | ht <;> simp [ht]
  refine ⟨⟨d, .compare op, v⟩, ?_, rfl, rfl, hvalue⟩
  rw [Filter.compile_eq_some_iff]
  exact ⟨_, parse_render hname hv, hd, rfl, rfl, ⟨by simp [hns], hl⟩⟩

theorem segment_toString (n : Int) : Segment (toString n) := by
  refine ⟨fun h => ?_, point_not_mem_toString n⟩
  have hn := toList_toString_int n
  rw [h] at hn
  have hdigits : Nat.toDigits 10 n.natAbs ≠ [] := Nat.toDigits_ne_nil
  exact hdigits (List.append_eq_nil_iff.1 hn.symm).2

theorem segment_written (negative : Bool) (m : Decimal) : Segment (m.written negative) := by
  refine ⟨fun h => ?_, m.point_not_mem_written negative⟩
  have hm := m.decimalLiteral_written negative
  rw [h, ← Literal.read?_eq_decimal_iff] at hm
  cases hm

theorem SortOrder.compile_sorted (direction : Direction) (hname : Segment d.name)
    (hd : schema.resolve d.name = some d) (hscalar : d.type.isScalar = true) :
    SortOrder.compile schema (d.name ++ "." ++ direction.text) = .ok (some ⟨d, direction⟩) := by
  have hword : '.' ∉ direction.text.toList := by cases direction <;> decide
  rw [SortOrder.compile_eq_some_iff]
  exact ⟨d.name, cut_two_iff.2 ⟨hname.dotFree, hword, rfl⟩, hname.ne_empty, hd, hscalar⟩

theorem askable (hname : Segment d.name) (hd : schema.resolve d.name = some d)
    (hscalar : d.type.isScalar = true) : Askable schema d where
  contains ht v hne hv := ⟨_, _, Filter.compile_contains hname hd ht hne hv, rfl, rfl, rfl⟩
  integer ht op n hl hh := by
    have hn : d.type.Denotes (toString n) (.integer n) := by
      rw [ht]
      exact .integer (integerLiteral_toString n) hl hh
    exact ⟨_, Filter.compile_compare op hname hd (segment_toString n) hn⟩
  float ht op y hfin := by
    have hy : d.type.Denotes ((Binary64.exactDecimal y.rank).written y.negative) (.float y) := by
      rw [ht]
      exact Binary64.denotes_exactDecimal hfin
    exact ⟨_, Filter.compile_compare op hname hd (segment_written _ _) hy⟩
  sorted direction := ⟨_, _, SortOrder.compile_sorted direction hname hd hscalar, rfl, rfl⟩

/-! ## Fields that no text reaches -/

/-- What a text finds can be named. -/
theorem segment_of_resolve (h : schema.resolve v = some d) (hv : Segment v) : Segment d.name := by
  have hsame := sameWord_iff_sameLetters.1 (Schema.sameWord_of_resolve h)
  exact hsame.segment_iff.2 hv

theorem Filter.nameable_of_compile {p : Predicate} (h : Filter.compile schema x = .ok (some p)) :
    Segment p.field.name ∧ p.field.type ≠ .other := by
  obtain ⟨e, hparse, hd, -, -, hfit⟩ := Filter.compile_eq_some_iff.1 h
  obtain ⟨-, hf, -⟩ := parse_eq_some_iff.1 hparse
  refine ⟨segment_of_resolve hd hf, fun ht => ?_⟩
  have hl := hfit.literal
  rw [ht] at hl
  cases hl

theorem SortOrder.nameable_of_compile {o : SortOrder}
    (h : SortOrder.compile schema x = .ok (some o)) :
    Segment o.field.name ∧ o.field.type ≠ .other := by
  obtain ⟨f, hc, hf, hd, hscalar⟩ := SortOrder.compile_eq_some_iff.1 h
  refine ⟨segment_of_resolve hd ⟨hf, hc.dotFree f (by simp)⟩, fun ht => ?_⟩
  rw [ht] at hscalar
  cases hscalar

theorem unaskable (hs : Schema.Distinct schema.fields) (hd : d ∈ schema.fields)
    (h : ¬ (Segment d.name ∧ d.type ≠ .other)) : Unaskable schema d where
  filter x p hp := by
    refine Bool.eq_false_iff.2 fun hsame => h ?_
    rw [← hs.eq_of_sameWord (mem_fields_of_compile hp) hd hsame]
    exact Filter.nameable_of_compile hp
  sorted x o ho := by
    obtain ⟨f, -, -, hg, -⟩ := SortOrder.compile_eq_some_iff.1 ho
    refine Bool.eq_false_iff.2 fun hsame => h ?_
    rw [← hs.eq_of_sameWord (Schema.mem_of_resolve hg) hd hsame]
    exact SortOrder.nameable_of_compile ho

/-- Of the fields of a schema just the scalar ones with a name that can stand before a dot can be
asked for, and they with every value of their type. -/
theorem expressible (entity : String) (declared : List Schema.Field) (d : Schema.Field)
    (hd : d ∈ (Schema.ofFields entity declared).fields) :
    (d.type.isScalar = true → d.name ≠ "" → '.' ∉ d.name.toList →
      Askable (Schema.ofFields entity declared) d) ∧
    (d.type = .other ∨ d.name = "" ∨ '.' ∈ d.name.toList →
      Unaskable (Schema.ofFields entity declared) d) := by
  have hs := Schema.distinct_ofFields entity declared
  constructor
  · intro hscalar hne hdot
    exact askable ⟨hne, hdot⟩ ((Schema.resolve_eq_some_iff hs).2 ⟨hd, sameWord_refl _⟩) hscalar
  · intro h
    refine unaskable hs hd fun hnameable => ?_
    rcases h with ht | hempty | hdot
    · exact hnameable.2 ht
    · exact hnameable.1.ne_empty hempty
    · exact hnameable.1.dotFree hdot

/-- A price in a schema with a field that no text can name. -/
theorem expressible_price :
    let schema := Schema.ofFields "games" [⟨"Price", .float⟩, ⟨"box.size", .integer⟩]
    Askable schema ⟨"Price", .float⟩ ∧ Unaskable schema ⟨"box.size", .integer⟩ :=
  ⟨(expressible _ [⟨"Price", .float⟩, ⟨"box.size", .integer⟩] ⟨"Price", .float⟩ (by decide)).1
      (by decide) (by decide) (by decide),
    (expressible _ [⟨"Price", .float⟩, ⟨"box.size", .integer⟩] ⟨"box.size", .integer⟩ (by decide)).2
      (.inr (.inr (by decide)))⟩

end Listing
