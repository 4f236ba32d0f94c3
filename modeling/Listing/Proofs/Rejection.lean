import Listing.Rejection

/-!
# The order of rejections

An expression can be wrong in several ways at once. `Rejection.stage` is the place of a cause in the
order in which causes are looked for, and `First flaw r` says that of the flaws an expression has,
`r` stands first in that order.
-/

set_option autoImplicit false

namespace Listing.Rejection

/-- The place of a cause in the order of checks. The first three look at the text alone. -/
def stage : Rejection → Nat
  | .malformed .. => 0
  | .emptySegment .. => 1
  | .unknownOperator .. | .invalidDirection .. => 2
  | .unknownField .. => 3
  | .partialMatch .. | .comparison .. | .notSortable .. => 4
  | .invalidValue .. => 5

theorem stage_le_five (r : Rejection) : r.stage ≤ 5 := by
  cases r <;> simp [stage]

/-- Of the flaws that hold, `r` is the first in the order of checks. -/
def First (flaw : Rejection → Prop) (r : Rejection) : Prop :=
  flaw r ∧ ∀ r', flaw r' → r.stage ≤ r'.stage

variable {flaw flaw' : Rejection → Prop} {r r' : Rejection}

/-- Flaws that are told apart by their stages have one first. -/
theorem First.unique (hflaw : ∀ r r', flaw r → flaw r' → r.stage = r'.stage → r = r')
    (h : First flaw r) (h' : First flaw r') : r = r' :=
  hflaw r r' h.1 h'.1 (Nat.le_antisymm (h.2 r' h'.1) (h'.2 r h.1))

/-- A first flaw of the text alone is first wherever the text has the same flaws. -/
theorem First.congr (hflaw : ∀ r, r.stage < 3 → (flaw r ↔ flaw' r)) (hr : r.stage < 3)
    (h : First flaw r) : First flaw' r := by
  refine ⟨(hflaw r hr).1 h.1, fun r' h' => ?_⟩
  by_cases hr' : r'.stage < 3
  · exact h.2 r' ((hflaw r' hr').2 h')
  · omega

theorem First.congr_iff (hflaw : ∀ r, r.stage < 3 → (flaw r ↔ flaw' r)) (hr : r.stage < 3) :
    First flaw r ↔ First flaw' r :=
  ⟨First.congr hflaw hr, First.congr (fun r hr => (hflaw r hr).symm) hr⟩

end Listing.Rejection
