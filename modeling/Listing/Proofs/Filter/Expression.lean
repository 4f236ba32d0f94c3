import Listing.Filter.Expression
import Listing.Proofs.Text.Cut
import Mathlib.Data.List.Basic

/-!
# Reading filters

What `Expression.parse` makes of a text, by the text's cut at dots (`parse_cases`). An expression is
read exactly from its own text (`parse_eq_some_iff`).
-/

set_option autoImplicit false

namespace Listing.Filter

open Text Rejection

variable {x : String} {e : Expression}

/-! ## Operators -/

theorem ofToken?_eq_some_iff {o : String} {op : Operator} :
    Operator.ofToken? o = some op ↔ op.token = o := by
  refine ⟨fun h => ?_, ?_⟩
  · unfold Operator.ofToken? at h
    split at h <;> simp_all <;> subst h <;> rfl
  · intro h
    subst h
    exact Operator.ofToken?_token op

theorem token_dotFree (op : Operator) : '.' ∉ op.token.toList := by
  cases op <;> decide

theorem token_ne_empty (op : Operator) : op.token ≠ "" := by
  cases op <;> decide

/-! ## Expressions -/

/-- All that reading a text can give, by the text's cut. -/
inductive Parsed (x : String) : Except Rejection (Option Expression) → Prop
  | count {segs : List String} : Cut x segs → segs.length ≠ 2 → segs.length ≠ 3 →
      Parsed x (.error (.malformed .filterBy x))
  | empty {segs : List String} : Cut x segs → segs.length = 2 ∨ segs.length = 3 → "" ∈ segs →
      Parsed x (.error (.emptySegment .filterBy x))
  | contains {f v : String} : Cut x [f, v] → f ≠ "" → v ≠ "" →
      Parsed x (.ok (some (.contains f v)))
  | compare {f v : String} {op : Operator} : Cut x [f, op.token, v] → f ≠ "" → v ≠ "" →
      Parsed x (.ok (some (.compare f op v)))
  | operator {f o v : String} : Cut x [f, o, v] → f ≠ "" → o ≠ "" → v ≠ "" →
      Operator.ofToken? o = none → Parsed x (.error (.unknownOperator o))

theorem parse_cases (hx : x ≠ "") : Parsed x (Expression.parse x) := by
  have hc := cut_segments x
  rw [Expression.parse, if_neg hx]
  split
  · rename_i f v hsegs
    rw [hsegs] at hc
    split
    · rename_i he
      refine .empty hc (.inl rfl) ?_
      rw [Bool.or_eq_true, decide_eq_true_eq, decide_eq_true_eq] at he
      simpa [eq_comm] using he
    · rename_i he
      obtain ⟨hf, hv⟩ : f ≠ "" ∧ v ≠ "" := by simpa using he
      exact .contains hc hf hv
  · rename_i f o v hsegs
    rw [hsegs] at hc
    split
    · rename_i he
      refine .empty hc (.inr rfl) ?_
      rw [Bool.or_eq_true, Bool.or_eq_true, decide_eq_true_eq, decide_eq_true_eq,
        decide_eq_true_eq] at he
      simpa [eq_comm, or_assoc] using he
    · rename_i he
      obtain ⟨⟨hf, ho⟩, hv⟩ : (f ≠ "" ∧ o ≠ "") ∧ v ≠ "" := by simpa using he
      split
      · rename_i op hop
        obtain rfl := ofToken?_eq_some_iff.1 hop
        exact .compare hc hf hv
      · rename_i hop
        exact .operator hc hf ho hv hop
  · rename_i htwo hthree
    refine .count hc (fun h => ?_) (fun h => ?_)
    · obtain ⟨f, v, hsegs⟩ := List.length_eq_two.1 h
      exact htwo f v hsegs
    · obtain ⟨f, o, v, hsegs⟩ := List.length_eq_three.1 h
      exact hthree f o v hsegs

/-- The segments of an expression's text. -/
def Expression.pieces : Expression → List String
  | .contains f v => [f, v]
  | .compare f op v => [f, op.token, v]

theorem cut_render (hf : '.' ∉ e.field.toList) (hv : '.' ∉ e.value.toList) :
    Cut e.render e.pieces := by
  cases e with
  | contains f v =>
    have : ∀ s ∈ [f, v], '.' ∉ s.toList := by simpa using ⟨hf, hv⟩
    exact ⟨by simp [Expression.pieces], this, join_eq_intercalate _⟩
  | compare f op v =>
    have : ∀ s ∈ [f, op.token, v], '.' ∉ s.toList := by simpa using ⟨hf, token_dotFree op, hv⟩
    exact ⟨by simp [Expression.pieces], this, join_eq_intercalate _⟩

theorem parse_render (hf : Segment e.field) (hv : Segment e.value) :
    Expression.parse e.render = .ok (some e) := by
  have hc := cut_render hf.dotFree hv.dotFree
  have hx : e.render ≠ "" := by
    intro hx
    cases e <;> cases (hx ▸ hc).unique cut_empty
  rw [Expression.parse, if_neg hx, hc.segments_eq]
  cases e with
  | contains f v =>
    have hf : f ≠ "" := hf.ne_empty
    have hv : v ≠ "" := hv.ne_empty
    simp [Expression.pieces, hf, hv]
  | compare f op v =>
    have hf : f ≠ "" := hf.ne_empty
    have hv : v ≠ "" := hv.ne_empty
    simp [Expression.pieces, hf, hv, token_ne_empty]

/-- An expression is read from its own text, and from no other. -/
theorem parse_eq_some_iff :
    Expression.parse x = .ok (some e) ↔ x = e.render ∧ Segment e.field ∧ Segment e.value := by
  refine ⟨fun h => ?_, by rintro ⟨rfl, hf, hv⟩; exact parse_render hf hv⟩
  have hx : x ≠ "" := by
    intro h
    subst h
    cases h
  have hp := parse_cases hx
  rw [h] at hp
  cases hp with
  | contains hc hf hv =>
    refine ⟨?_, ⟨hf, hc.dotFree _ (by simp [Expression.field])⟩,
      ⟨hv, hc.dotFree _ (by simp [Expression.value])⟩⟩
    rw [hc.text, ← join_eq_intercalate]
    rfl
  | compare hc hf hv =>
    refine ⟨?_, ⟨hf, hc.dotFree _ (by simp [Expression.field])⟩,
      ⟨hv, hc.dotFree _ (by simp [Expression.value])⟩⟩
    rw [hc.text, ← join_eq_intercalate]
    rfl

end Listing.Filter
