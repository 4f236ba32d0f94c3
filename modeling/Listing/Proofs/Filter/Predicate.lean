import Listing.Filter.Predicate
import Listing.Proofs.Filter.Expression

/-!
# What a compiled filter is

`Predicate.Fits p`: the test and the literal of `p` suit the type of its field. Whatever the schema,
compiling gives predicates that fit, on fields of the schema (`compile_eq_some_iff`,
`Fits.of_compile`).
-/

set_option autoImplicit false

namespace Listing.Filter

variable {schema : Schema} {x : String} {e : Expression} {p : Predicate}

/-- What an expression asks of its field. -/
def Expression.test : Expression → Test
  | .contains _ _ => .contains
  | .compare _ op _ => .compare op

/-- The test suits the type of the field, and the literal denotes a value of it. -/
structure Predicate.Fits (p : Predicate) : Prop where
  test : p.test = .contains ↔ p.field.type = .string
  literal : p.field.type.accepts p.literal = true

theorem Expression.compile_eq_ok_iff : e.compile schema = .ok p ↔
    schema.resolve e.field = some p.field ∧ p.test = e.test ∧ p.literal = e.value ∧ p.Fits := by
  refine ⟨fun h => ?_, ?_⟩
  · simp only [Expression.compile] at h
    split at h
    · cases h
    · rename_i d hd
      cases e with
      | contains f v =>
        dsimp only at h
        split at h
        · cases h
        · rename_i ht
          split at h
          · rename_i hl
            cases h
            exact ⟨hd, rfl, rfl, ⟨by simpa using ht, hl⟩⟩
          · cases h
      | compare f op v =>
        dsimp only at h
        split at h
        · cases h
        · rename_i ht
          split at h
          · rename_i hl
            cases h
            exact ⟨hd, rfl, rfl, ⟨by simpa using ht, hl⟩⟩
          · cases h
  · obtain ⟨d, test, literal⟩ := p
    intro h
    obtain ⟨hd, rfl, rfl, ⟨ht, hl⟩⟩ := h
    cases e with
    | contains f v =>
      have ht : d.type = .string := ht.1 rfl
      have hl : d.type.accepts v = true := hl
      simp only [Expression.compile, hd, ht, ne_eq, not_true_eq_false, if_false]
      rw [if_pos (ht ▸ hl)]
      rfl
    | compare f op v =>
      have ht : d.type ≠ .string := fun h => by cases ht.2 h
      have hl : d.type.accepts v = true := hl
      simp only [Expression.compile, hd, if_neg ht, if_pos hl]
      rfl

theorem parse_ne_none (hx : x ≠ "") : Expression.parse x ≠ .ok none := by
  intro h
  rw [Expression.parse, if_neg hx] at h
  split at h
  · split at h <;> cases h
  · split at h
    · cases h
    · split at h <;> cases h
  · cases h

/-- Only the empty text is no filter. -/
theorem compile_eq_none_iff : compile schema x = .ok none ↔ x = "" := by
  refine ⟨fun h => ?_, fun h => h ▸ rfl⟩
  unfold compile at h
  split at h
  · cases h
  · rename_i hnone
    exact Decidable.of_not_not fun hx => parse_ne_none hx hnone
  · rename_i e _
    cases hc : e.compile schema <;> rw [hc] at h <;> cases h

/-- A compiled filter is the expression read from the text, on a field of the schema. -/
theorem compile_eq_some_iff : compile schema x = .ok (some p) ↔
    ∃ e : Expression, Expression.parse x = .ok (some e) ∧ schema.resolve e.field = some p.field ∧
      p.test = e.test ∧ p.literal = e.value ∧ p.Fits := by
  simp only [← Expression.compile_eq_ok_iff, compile]
  cases Expression.parse x with
  | error r => simp
  | ok o =>
    cases o with
    | none => simp
    | some e =>
      cases h : e.compile schema with
      | error r => simp [Except.map, h]
      | ok p' => simp [Except.map, h]

theorem Predicate.Fits.of_compile (h : compile schema x = .ok (some p)) : p.Fits := by
  obtain ⟨e, -, -, -, -, hp⟩ := compile_eq_some_iff.1 h
  exact hp

/-- No value of a field that is not scalar can be denoted. -/
theorem Predicate.Fits.isScalar (h : p.Fits) : p.field.type.isScalar = true := by
  obtain ⟨⟨name, type⟩, test, literal⟩ := p
  cases type with
  | other => cases h.literal
  | string | integer | float => rfl

theorem mem_fields_of_compile (h : compile schema x = .ok (some p)) : p.field ∈ schema.fields := by
  obtain ⟨e, -, hd, -⟩ := compile_eq_some_iff.1 h
  exact Schema.mem_of_resolve hd

end Listing.Filter
