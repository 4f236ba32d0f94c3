import Listing.Proofs.Filter.Predicate
import Listing.Proofs.SortOrder
import Listing.Proofs.Text.LetterCase

/-!
# The case of field names

`Recased x x'`: the texts are equal but for the case of ASCII letters in their field segment. Such
texts come to the same, be they accepted or refused; and two accepted texts that come to the same
are such texts (`case_kernel`). So nothing but the case of the field is forgotten in compiling,
whatever the names of the fields are.
-/

set_option autoImplicit false

namespace Listing

open Text

/-- Texts with the same segments, but for the case of ASCII letters in the first. -/
inductive Recased (x x' : String) : Prop
  | mk {f f' : String} {rest : List String} : Cut x (f :: rest) → Cut x' (f' :: rest) →
      SameLetters f f' → Recased x x'

/-- Both give the same result, or both are refused for a cause of one kind. -/
def SameOutcome {α : Type} (a b : Except Rejection α) : Prop :=
  (∃ o, a = .ok o ∧ b = .ok o) ∨ ∃ r r', a = .error r ∧ b = .error r' ∧ r.kind = r'.kind

variable {schema : Schema} {x x' f f' : String} {rest : List String}

theorem SameOutcome.refl {α : Type} (a : Except Rejection α) : SameOutcome a a := by
  cases a with
  | error r => exact .inr ⟨r, r, rfl, rfl, rfl⟩
  | ok o => exact .inl ⟨o, rfl, rfl⟩

theorem SameOutcome.map {α β : Type} {a b : Except Rejection α} (h : SameOutcome a b) (g : α → β) :
    SameOutcome (a.map g) (b.map g) := by
  rcases h with ⟨o, rfl, rfl⟩ | ⟨r, r', rfl, rfl, hkind⟩
  · exact .inl ⟨g o, rfl, rfl⟩
  · exact .inr ⟨r, r', rfl, rfl, hkind⟩

/-! ## Texts that differ in case -/

theorem eq_empty_iff_of_recased (hc : Cut x (f :: rest)) (hc' : Cut x' (f' :: rest))
    (hf : SameLetters f f') : x = "" ↔ x' = "" := by
  rw [hc.eq_empty_iff, hc'.eq_empty_iff, List.cons.injEq, List.cons.injEq, hf.eq_empty_iff]

/-- Fields of one name up to case make the same predicate. -/
theorem Filter.Expression.sameOutcome {e e' : Filter.Expression} (hf : SameLetters e.field e'.field)
    (ht : e.test = e'.test) (hv : e.value = e'.value) :
    SameOutcome (e.compile schema) (e'.compile schema) := by
  have hd : schema.resolve e.field = schema.resolve e'.field :=
    Schema.resolve_congr (sameWord_iff_sameLetters.2 hf) schema
  cases hg : schema.resolve e'.field with
  | none =>
    refine .inr ⟨.unknownField e.field schema.entity, .unknownField e'.field schema.entity,
      ?_, ?_, rfl⟩
    · rw [Expression.compile, hd, hg]
    · rw [Expression.compile, hg]
  | some d =>
    suffices h : e.compile schema = e'.compile schema from h ▸ SameOutcome.refl _
    rw [Expression.compile, Expression.compile, hd, hg]
    cases e with
    | contains =>
      cases e' with
      | contains =>
        obtain rfl := hv
        rfl
      | compare => cases ht
    | compare =>
      cases e' with
      | contains => cases ht
      | compare =>
        obtain rfl := hv
        cases ht
        rfl

theorem Filter.sameOutcome_of_recased (h : Recased x x') :
    SameOutcome (Filter.compile schema x) (Filter.compile schema x') := by
  obtain @⟨f, f', rest, hc, hc', hf⟩ := h
  have hempty := eq_empty_iff_of_recased hc hc' hf
  by_cases hx : x = ""
  · rw [hx, hempty.1 hx]
    exact .refl _
  · have hx' : x' ≠ "" := mt hempty.2 hx
    unfold Filter.compile
    rw [Expression.parse, if_neg hx, hc.segments_eq, Expression.parse, if_neg hx', hc'.segments_eq]
    -- the number of segments and the segments behind the first are those of both texts
    rcases rest with _ | ⟨v, _ | ⟨v', _ | ⟨w, rest⟩⟩⟩
    · exact .inr ⟨_, _, rfl, rfl, rfl⟩
    · by_cases hne : f = "" ∨ v = ""
      · have hne' : f' = "" ∨ v = "" := hne.imp_left hf.eq_empty_iff.1
        simp only [Bool.or_eq_true, decide_eq_true_eq, if_pos hne, if_pos hne']
        exact .inr ⟨_, _, rfl, rfl, rfl⟩
      · have hne' : ¬ (f' = "" ∨ v = "") := mt (Or.imp_left hf.eq_empty_iff.2) hne
        simp only [Bool.or_eq_true, decide_eq_true_eq, if_neg hne, if_neg hne']
        have h : SameOutcome ((Expression.contains f v).compile schema)
            ((Expression.contains f' v).compile schema) := Expression.sameOutcome hf rfl rfl
        exact h.map some
    · by_cases hne : (f = "" ∨ v = "") ∨ v' = ""
      · have hne' : (f' = "" ∨ v = "") ∨ v' = "" := hne.imp_left (Or.imp_left hf.eq_empty_iff.1)
        simp only [Bool.or_eq_true, decide_eq_true_eq, if_pos hne, if_pos hne']
        exact .inr ⟨_, _, rfl, rfl, rfl⟩
      · have hne' : ¬ ((f' = "" ∨ v = "") ∨ v' = "") :=
          mt (Or.imp_left (Or.imp_left hf.eq_empty_iff.2)) hne
        simp only [Bool.or_eq_true, decide_eq_true_eq, if_neg hne, if_neg hne']
        cases Operator.ofToken? v with
        | none => exact .refl _
        | some op =>
          have h : SameOutcome ((Expression.compare f op v').compile schema)
              ((Expression.compare f' op v').compile schema) := Expression.sameOutcome hf rfl rfl
          exact h.map some
    · exact .inr ⟨_, _, rfl, rfl, rfl⟩

theorem SortOrder.sameOutcome_of_recased (h : Recased x x') :
    SameOutcome (SortOrder.compile schema x) (SortOrder.compile schema x') := by
  obtain @⟨f, f', rest, hc, hc', hf⟩ := h
  have hempty := eq_empty_iff_of_recased hc hc' hf
  by_cases hx : x = ""
  · rw [hx, hempty.1 hx]
    exact .refl _
  · have hx' : x' ≠ "" := mt hempty.2 hx
    unfold SortOrder.compile
    rw [if_neg hx, hc.segments_eq, if_neg hx', hc'.segments_eq]
    rcases rest with _ | ⟨w, _ | ⟨v, rest⟩⟩
    · exact .inr ⟨_, _, rfl, rfl, rfl⟩
    · by_cases hne : f = "" ∨ w = ""
      · have hne' : f' = "" ∨ w = "" := hne.imp_left hf.eq_empty_iff.1
        simp only [Bool.or_eq_true, decide_eq_true_eq, if_pos hne, if_pos hne']
        exact .inr ⟨_, _, rfl, rfl, rfl⟩
      · have hne' : ¬ (f' = "" ∨ w = "") := mt (Or.imp_left hf.eq_empty_iff.2) hne
        simp only [Bool.or_eq_true, decide_eq_true_eq, if_neg hne, if_neg hne']
        cases Direction.ofText? w with
        | none => exact .refl _
        | some d =>
          have hd : schema.resolve f = schema.resolve f' :=
            Schema.resolve_congr (sameWord_iff_sameLetters.2 hf) schema
          simp only [hd]
          cases schema.resolve f' with
          | none => exact .inr ⟨_, _, rfl, rfl, rfl⟩
          | some g => exact .refl _
    · exact .inr ⟨_, _, rfl, rfl, rfl⟩

/-! ## Fragments are decoded from behind

Nothing is asked of the names: they may hold blanks, signs and question marks. -/

/-- What a fragment shows behind the name of the field. -/
def Filter.Test.ending : Filter.Test → String
  | .contains => " LIKE ?"
  | .compare op => " " ++ op.symbol ++ " ?"

theorem Filter.Predicate.fragment_eq (p : Filter.Predicate) :
    p.fragment = p.field.name ++ p.test.ending := by
  obtain ⟨d, test, literal⟩ := p
  cases test with
  | contains => rfl
  | compare op => simp [Predicate.fragment, Test.ending, String.append_assoc]

/-- No ending stands at the end of another one. -/
theorem Filter.Test.eq_of_suffix {t t' : Filter.Test}
    (h : t.ending.toList <:+ t'.ending.toList) : t = t' := by
  cases t with
  | contains =>
    cases t' with
    | contains => rfl
    | compare op' => cases op' <;> exact absurd h (by decide)
  | compare op =>
    cases t' with
    | contains => cases op <;> exact absurd h (by decide)
    | compare op' => cases op <;> cases op' <;> first | rfl | exact absurd h (by decide)

theorem Direction.eq_of_suffix {d d' : Direction}
    (h : (" " ++ d.text).toList <:+ (" " ++ d'.text).toList) : d = d' := by
  cases d <;> cases d' <;> first | rfl | exact absurd h (by decide)

/-- A text has one ending out of endings none of which ends another. -/
theorem eq_of_append_eq {α : Type} {ending : α → String}
    (hending : ∀ {a b : α}, (ending a).toList <:+ (ending b).toList → a = b)
    {n n' : String} {a b : α} (h : n ++ ending a = n' ++ ending b) : n = n' ∧ a = b := by
  have hlist : n.toList ++ (ending a).toList = n'.toList ++ (ending b).toList := by
    rw [← String.toList_append, h, String.toList_append]
  have hab : a = b := by
    rcases List.suffix_or_suffix_of_suffix ⟨_, hlist⟩ (List.suffix_append _ _) with hs | hs
    · exact hending hs
    · exact (hending hs).symm
  subst hab
  exact ⟨String.toList_injective (List.append_cancel_right hlist), rfl⟩

/-- Fields of one name are found by the same words up to case. -/
theorem sameLetters_of_resolve {d d' : Schema.Field} (hd : schema.resolve f = some d)
    (hd' : schema.resolve f' = some d') (hname : d.name = d'.name) : SameLetters f f' := by
  have hf := Schema.sameWord_of_resolve hd
  have hf' := Schema.sameWord_of_resolve hd'
  rw [hname, sameWord_comm] at hf
  exact sameWord_iff_sameLetters.1 (sameWord_trans hf hf')

/-- Predicates that show the same are those of one filter, spelled in two cases. -/
theorem Filter.recased_of_shown {p p' : Filter.Predicate}
    (h : Filter.compile schema x = .ok (some p)) (h' : Filter.compile schema x' = .ok (some p'))
    (hfragment : p.fragment = p'.fragment) (hbound : p.boundText = p'.boundText) :
    Recased x x' := by
  obtain ⟨e, hparse, hd, ht, hl, -⟩ := Filter.compile_eq_some_iff.1 h
  obtain ⟨e', hparse', hd', ht', hl', -⟩ := Filter.compile_eq_some_iff.1 h'
  obtain ⟨rfl, hf, hv⟩ := parse_eq_some_iff.1 hparse
  obtain ⟨rfl, hf', hv'⟩ := parse_eq_some_iff.1 hparse'
  have hc := cut_render hf.dotFree hv.dotFree
  have hc' := cut_render hf'.dotFree hv'.dotFree
  rw [p.fragment_eq, p'.fragment_eq] at hfragment
  obtain ⟨hname, htest⟩ := eq_of_append_eq Test.eq_of_suffix hfragment
  have hsame := sameLetters_of_resolve hd hd' hname
  have hliteral : p.literal = p'.literal := by
    rw [Predicate.boundText, Predicate.boundText, htest] at hbound
    cases hform : p'.test with
    | contains => simpa [hform] using hbound
    | compare op => simpa [hform] using hbound
  rw [ht, ht'] at htest
  rw [hl, hl'] at hliteral
  cases e with
  | contains f v =>
    cases e' with
    | contains f' v' =>
      obtain rfl : v = v' := hliteral
      exact ⟨hc, hc', hsame⟩
    | compare => cases htest
  | compare f op v =>
    cases e' with
    | contains => cases htest
    | compare f' op' v' =>
      obtain rfl : v = v' := hliteral
      cases htest
      exact ⟨hc, hc', hsame⟩

/-- Orders that show the same are those of one text, spelled in two cases. -/
theorem SortOrder.recased_of_shown {o o' : SortOrder}
    (h : SortOrder.compile schema x = .ok (some o))
    (h' : SortOrder.compile schema x' = .ok (some o')) (hfragment : o.fragment = o'.fragment) :
    Recased x x' := by
  obtain ⟨f, hc, -, hd, -⟩ := SortOrder.compile_eq_some_iff.1 h
  obtain ⟨f', hc', -, hd', -⟩ := SortOrder.compile_eq_some_iff.1 h'
  have hshown : o.field.name ++ (" " ++ o.direction.text)
      = o'.field.name ++ (" " ++ o'.direction.text) := by
    rw [← String.append_assoc, ← String.append_assoc]
    exact hfragment
  obtain ⟨hname, hdirection⟩ := eq_of_append_eq Direction.eq_of_suffix hshown
  rw [← hdirection] at hc'
  exact ⟨hc, hc', sameLetters_of_resolve hd hd' hname⟩

/-- The case of the field is all that compiling forgets of a text: texts that differ in it only come
to the same, and accepted texts that come to the same differ in it only, byte for byte in every
other segment. -/
theorem case_kernel (schema : Schema) :
    (∀ x x', Recased x x' →
      SameOutcome (Filter.compile schema x) (Filter.compile schema x') ∧
      SameOutcome (SortOrder.compile schema x) (SortOrder.compile schema x')) ∧
    (∀ x x' p p', Filter.compile schema x = .ok (some p) →
      Filter.compile schema x' = .ok (some p') → p.fragment = p'.fragment →
      p.boundText = p'.boundText → Recased x x') ∧
    ∀ x x' o o', SortOrder.compile schema x = .ok (some o) →
      SortOrder.compile schema x' = .ok (some o') → o.fragment = o'.fragment → Recased x x' :=
  ⟨fun _ _ h => ⟨Filter.sameOutcome_of_recased h, SortOrder.sameOutcome_of_recased h⟩,
    fun _ _ _ _ h h' hfragment hbound => Filter.recased_of_shown h h' hfragment hbound,
    fun _ _ _ _ h h' hfragment => SortOrder.recased_of_shown h h' hfragment⟩

/-- One filter in two cases, on a field whose name reads like a condition. -/
theorem case_kernel_sign :
    let schema := Schema.ofFields "games" [⟨"a < ?", .integer⟩, ⟨"a", .integer⟩]
    SameOutcome (Filter.compile schema "A < ?.gt.1") (Filter.compile schema "a < ?.gt.1") ∧
    SameOutcome (SortOrder.compile schema "A.asc") (SortOrder.compile schema "a.asc") ∧
    (∃ p p', Filter.compile schema "A < ?.gt.1" = .ok (some p) ∧
      Filter.compile schema "a < ?.gt.1" = .ok (some p') ∧ p = p') ∧
    Recased "A < ?.gt.1" "a < ?.gt.1" ∧ Recased "A.asc" "a.asc" := by
  intro schema
  have h := case_kernel schema
  have hfilter := h.2.1 "A < ?.gt.1" "a < ?.gt.1" _ _ rfl rfl rfl rfl
  have hsort := h.2.2 "A.asc" "a.asc" _ _ rfl rfl rfl
  exact ⟨(h.1 _ _ hfilter).1, (h.1 _ _ hsort).2, ⟨_, _, rfl, rfl, rfl⟩, hfilter, hsort⟩

end Listing
