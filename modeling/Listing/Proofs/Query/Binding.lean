import Listing.Proofs.Query.ReadBack

/-!
# Values keep the type of their field

The value bound for a filter is of the type of its field (`value_isBound`): the integer that the
value segment denotes, the binary64 number nearest to the decimal that it denotes, or the segment
between percent signs. Checking a value and binding it read its text apart from each other, and
agree: a text is never bound for a number.
-/

set_option autoImplicit false

namespace Listing.Filter

open Text Number Binary64

/-- What a filter `x` on the field `d` of a schema asks to be bound, said by its segments. -/
inductive IsBound (schema : Schema) (x : String) (d : Schema.Field) : Value → Prop
  | text {f v : String} : Cut x [f, v] → schema.resolve f = some d → d.type = .string →
      IsBound schema x d (.text ("%" ++ v ++ "%"))
  | integer {f o v : String} {n : Int} : Cut x [f, o, v] → schema.resolve f = some d →
      d.type = .integer → IntegerLiteral v.toList n → IsBound schema x d (.integer n)
  | float {f o v : String} {m : Decimal} {y : Binary64} : Cut x [f, o, v] →
      schema.resolve f = some d → d.type = .float → DecimalLiteral v.toList y.negative m →
      y.isFinite = true → Nearest m.toRat y.rank → IsBound schema x d (.float y)

variable {schema : Schema} {x : String} {p : Predicate} {d : Schema.Field} {w w' : Value}

/-- A text and a field determine what is bound. -/
theorem IsBound.unique (h : IsBound schema x d w) (h' : IsBound schema x d w') : w = w' := by
  cases h with
  | text hc _ ht =>
    cases h' with
    | text hc' => cases hc.unique hc'; rfl
    | integer _ _ ht' => cases ht.symm.trans ht'
    | float _ _ ht' => cases ht.symm.trans ht'
  | integer hc _ ht hn =>
    cases h' with
    | text _ _ ht' => cases ht.symm.trans ht'
    | integer hc' _ _ hn' =>
      cases hc.unique hc'
      rw [← integer?_eq_some_iff] at hn hn'
      rw [Option.some.inj (hn.symm.trans hn')]
    | float _ _ ht' => cases ht.symm.trans ht'
  | float hc _ ht hm hfin hnear =>
    cases h' with
    | text _ _ ht' => cases ht.symm.trans ht'
    | integer _ _ ht' => cases ht.symm.trans ht'
    | float hc' _ _ hm' hfin' hnear' =>
      cases hc.unique hc'
      have hv := (denotes_iff.1 (FieldType.Denotes.float hm hfin hnear)).2.2
      have hv' := (denotes_iff.1 (FieldType.Denotes.float hm' hfin' hnear')).2.2
      exact hv.symm.trans hv'

theorem IsBound.of_compile (h : compile schema x = .ok (some p)) :
    IsBound schema x p.field p.value := by
  obtain ⟨e, hparse, hd, htest, hliteral, hfit⟩ := compile_eq_some_iff.1 h
  obtain ⟨rfl, hf, hv⟩ := parse_eq_some_iff.1 hparse
  have hc := cut_render hf.dotFree hv.dotFree
  have hbinds := hfit.binds
  have hform := hfit.test
  generalize p.value = value at hbinds
  rw [htest] at hform
  cases e with
  | contains f v =>
    have ht : p.field.type = .string := hform.1 rfl
    have hl : p.literal = v := hliteral
    cases hbinds with
    | text =>
      rw [hl]
      exact .text hc hd ht
    | integer ht' => cases ht.symm.trans ht'
    | float ht' => cases ht.symm.trans ht'
  | compare f op v =>
    have hl : p.literal = v := hliteral
    cases hbinds with
    | text ht => cases hform.2 ht
    | integer ht hn =>
      rw [hl] at hn
      cases hn with
      | integer hn => exact .integer hc hd ht hn
    | float ht hfin hx =>
      rw [hl] at hx
      cases hx with
      | float hm _ hnear => exact .float hc hd ht hm hfin hnear

/-- The value bound for a filter is the one that its segments ask for on the field they name, and no
other: a number wherever the field is numeric, and a text for a text only. -/
theorem value_isBound (h : compile schema x = .ok (some p)) :
    (∀ w, w = p.value ↔ IsBound schema x p.field w) ∧
      (∀ s, p.value = .text s → p.field.type = .string) ∧ p.field.type ≠ .other := by
  have hbound := IsBound.of_compile h
  refine ⟨fun w => ⟨fun hw => hw ▸ hbound, fun hw => hw.unique hbound⟩, fun s hs => ?_, ?_⟩
  · rw [hs] at hbound
    cases hbound with
    | text _ _ ht => exact ht
  · generalize p.value = w at hbound
    cases hbound with
    | text _ _ ht => simp [ht]
    | integer _ _ ht => simp [ht]
    | float _ _ ht => simp [ht]

/-- A decimal in the middle between two numbers is bound as the even one. -/
theorem value_isBound_tie :
    let schema := Schema.ofFields "games" [⟨"price", .float⟩]
    let x := "PRICE.eq.+0009007199254740993"
    ∃ p, compile schema x = .ok (some p) ∧
      p.value = .float (.ofDecimal false ⟨9007199254740992, 0⟩) ∧
      (∀ w, w = p.value ↔ IsBound schema x p.field w) ∧
      (∀ s, p.value = .text s → p.field.type = .string) ∧ p.field.type ≠ .other := by
  intro schema x
  have hcompile : compile schema x
      = .ok (some ⟨⟨"price", .float⟩, .compare .eq, "+0009007199254740993"⟩) := by decide +kernel
  exact ⟨_, hcompile, by decide +kernel, value_isBound hcompile⟩

end Listing.Filter
