import Listing.Request

/-!
# What a request compiles to

A plan holds what the two texts compile to (`compile_eq_ok_iff`).
-/

set_option autoImplicit false

namespace Listing.ListRequest

variable {schema : Schema} {r : ListRequest} {plan : Plan}

theorem compile_eq_ok_iff : (compile schema r).2 = .ok plan ↔
    Filter.compile schema r.filterBy = .ok plan.predicate ∧
      SortOrder.compile schema r.sortBy = .ok plan.order := by
  obtain ⟨predicate, order⟩ := plan
  unfold compile
  cases Filter.compile schema r.filterBy with
  | error e => simp
  | ok p =>
    cases SortOrder.compile schema r.sortBy with
    | error e => simp
    | ok o => simp

end Listing.ListRequest
