import Listing.SortOrder
import Listing.Proofs.Text.Cut

/-!
# Reading sort orders

An order is compiled exactly from `field.direction` with a field that resolves to a scalar one
(`compile_eq_some_iff`).
-/

set_option autoImplicit false

namespace Listing.SortOrder

open Text

variable {schema : Schema} {x : String} {o : SortOrder}

theorem ofText?_eq_some_iff {w : String} {d : Direction} :
    Direction.ofText? w = some d ↔ d.text = w := by
  refine ⟨fun h => ?_, ?_⟩
  · unfold Direction.ofText? at h
    split at h <;> simp_all <;> subst h <;> rfl
  · intro h
    subst h
    exact Direction.ofText?_text d

theorem direction_ne_empty (d : Direction) : d.text ≠ "" := by
  cases d <;> decide

@[simp] theorem compile_empty (schema : Schema) : compile schema "" = .ok none := rfl

/-- An order comes of a text that names a scalar field and a direction, and of no other. -/
theorem compile_eq_some_iff : compile schema x = .ok (some o) ↔
    ∃ f, Cut x [f, o.direction.text] ∧ f ≠ "" ∧ schema.resolve f = some o.field ∧
      o.field.type.isScalar = true := by
  refine ⟨fun h => ?_, ?_⟩
  · unfold compile at h
    split at h
    · cases h
    · split at h
      · rename_i f w hsegs
        have hc : Cut x [f, w] := hsegs ▸ cut_segments x
        split at h
        · cases h
        · rename_i hne
          split at h
          · cases h
          · rename_i d hw
            split at h
            · cases h
            · rename_i g hg
              split at h
              · rename_i hscalar
                cases h
                have hf : f ≠ "" := fun hf => hne (by simp [hf])
                exact ⟨f, ofText?_eq_some_iff.1 hw ▸ hc, hf, hg, hscalar⟩
              · cases h
      · cases h
  · intro h
    obtain ⟨f, hc, hf, hg, hscalar⟩ := h
    have hx : x ≠ "" := by
      intro h
      subst h
      cases hc.unique cut_empty
    rw [compile, if_neg hx, hc.segments_eq]
    simp [hf, direction_ne_empty, hg, hscalar]

/-- Only the empty text is no order. -/
theorem compile_eq_none_iff : compile schema x = .ok none ↔ x = "" := by
  refine ⟨fun h => ?_, fun h => h ▸ rfl⟩
  unfold compile at h
  split at h
  · assumption
  · split at h
    · split at h
      · cases h
      · split at h
        · cases h
        · split at h
          · cases h
          · split at h <;> cases h
    · cases h

end Listing.SortOrder
