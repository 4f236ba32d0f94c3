import Listing.Proofs.Filter.Predicate
import Mathlib.Data.Set.Function

/-!
# Filters and their texts

An expression is well formed if its field and its value can stand beside a dot. Reading the text of
a well-formed expression gives the expression, and whatever is read from a text is well formed and
has that text; so the texts that are read, the empty one apart, and the well-formed expressions
correspond one to one (`parse_inverts_render`).
-/

set_option autoImplicit false

namespace Listing.Filter

open Text

/-- Neither the field nor the value is empty or holds a dot. -/
structure Expression.WellFormed (e : Expression) : Prop where
  field : Segment e.field
  value : Segment e.value

/-- A writer that puts dots between the parts of an expression, and a reader of what it writes. -/
structure Inverts (read : String → Except Rejection (Option Expression))
    (write : Expression → String) : Prop where
  write_contains : ∀ f v, write (.contains f v) = f ++ "." ++ v
  write_compare : ∀ f op v, write (.compare f op v) = f ++ "." ++ op.token ++ "." ++ v
  read_write : ∀ e : Expression, e.WellFormed → read (write e) = .ok (some e)
  write_read : ∀ x e, read x = .ok (some e) → e.WellFormed ∧ write e = x
  bijOn : Set.BijOn read {x | x ≠ "" ∧ ∃ e?, read x = .ok e?}
    ((fun e => .ok (some e)) '' {e : Expression | e.WellFormed})
  apart : ∀ f v f' op v', (Expression.contains f v).WellFormed →
    (Expression.compare f' op v').WellFormed → write (.contains f v) ≠ write (.compare f' op v')

variable {x f v : String} {e : Expression}

theorem render_contains (f v : String) : (Expression.contains f v).render = f ++ "." ++ v := by
  rw [Expression.render, join_eq_intercalate]
  simp [String.append_assoc]

theorem render_compare (f : String) (op : Operator) (v : String) :
    (Expression.compare f op v).render = f ++ "." ++ op.token ++ "." ++ v := by
  rw [Expression.render, join_eq_intercalate]
  simp [String.append_assoc]

/-- What is read from a text that is not empty is an expression. -/
theorem exists_of_parse_ok (hx : x ≠ "") {e? : Option Expression}
    (h : Expression.parse x = .ok e?) : ∃ e, e? = some e := by
  cases e? with
  | none => exact absurd h (parse_ne_none hx)
  | some e => exact ⟨e, rfl⟩

theorem Expression.WellFormed.render_ne_empty (h : e.WellFormed) : e.render ≠ "" := by
  intro hx
  have hparse := parse_render h.field h.value
  rw [hx] at hparse
  cases hparse

theorem parse_bijOn : Set.BijOn Expression.parse {x | x ≠ "" ∧ ∃ e?, Expression.parse x = .ok e?}
    ((fun e => .ok (some e)) '' {e : Expression | e.WellFormed}) := by
  refine ⟨?_, ?_, ?_⟩
  · intro x hx
    obtain ⟨hne, e?, hparse⟩ := hx
    obtain ⟨e, rfl⟩ := exists_of_parse_ok hne hparse
    obtain ⟨-, hf, hv⟩ := parse_eq_some_iff.1 hparse
    exact ⟨e, ⟨hf, hv⟩, hparse.symm⟩
  · intro x hx y hy hxy
    obtain ⟨hne, e?, hparse⟩ := hx
    obtain ⟨e, rfl⟩ := exists_of_parse_ok hne hparse
    -- both texts are the one text of the expression read
    have hx := (parse_eq_some_iff.1 hparse).1
    have hy := (parse_eq_some_iff.1 (hxy ▸ hparse)).1
    exact hx.trans hy.symm
  · intro r hr
    obtain ⟨e, he, rfl⟩ := hr
    have hparse := parse_render he.field he.value
    exact ⟨e.render, ⟨he.render_ne_empty, some e, hparse⟩, hparse⟩

/-- The two forms share no text, for a text is read as one expression. -/
theorem contains_render_ne_compare_render {f' v' : String} {op : Operator}
    (h : (Expression.contains f v).WellFormed) (h' : (Expression.compare f' op v').WellFormed) :
    (Expression.contains f v).render ≠ (Expression.compare f' op v').render := by
  intro heq
  have hparse := parse_render h.field h.value
  rw [heq, parse_render h'.field h'.value] at hparse
  cases hparse

/-- Reading and writing filters undo each other. -/
theorem parse_inverts_render : Inverts Expression.parse Expression.render where
  write_contains := render_contains
  write_compare := render_compare
  read_write _ he := parse_render he.field he.value
  write_read _ _ h := by
    obtain ⟨hx, hf, hv⟩ := parse_eq_some_iff.1 h
    exact ⟨⟨hf, hv⟩, hx.symm⟩
  bijOn := parse_bijOn
  apart _ _ _ _ _ := contains_render_ne_compare_render

end Listing.Filter
