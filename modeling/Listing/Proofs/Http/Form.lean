import Listing.Http.Form

/-!
# Requests in a query part

What is read from the pairs of a query part: the text given for each of the two names. It is a fault
if one of them is given more than once, and there is no other fault (`ofPairs_eq_ok`,
`ofPairs_eq_error`).
-/

set_option autoImplicit false

namespace Listing.Form

/-- How often a name is given. -/
def times (name : String) (pairs : List (String × String)) : Nat := (pairs.map Prod.fst).count name

/-- The text given for a name, empty if there is none. -/
def given (name : String) (pairs : List (String × String)) : String := (pairs.lookup name).getD ""

/-- One of the names that matter is given more than once. -/
def Repeated (pairs : List (String × String)) : Prop :=
  1 < times "filterBy" pairs ∨ 1 < times "sortBy" pairs

/-- The two texts that are given. -/
def request (pairs : List (String × String)) : ListRequest :=
  ⟨given "filterBy" pairs, given "sortBy" pairs⟩

variable {pairs : List (String × String)}

theorem times_cons (name n v : String) (pairs : List (String × String)) :
    times name ((n, v) :: pairs) = times name pairs + if n = name then 1 else 0 := by
  simp [times, List.count_cons]

theorem lookup_cons (name n v : String) (pairs : List (String × String)) :
    List.lookup name ((n, v) :: pairs) = if n = name then some v else pairs.lookup name := by
  rw [List.lookup_cons]
  by_cases hn : n = name
  · simp [hn]
  · have hne : (name == n) = false := beq_eq_false_iff_ne.2 (Ne.symm hn)
    simp [hn, hne]

theorem ofPairs_filterBy (f s : Option String) (v : String) (pairs : List (String × String)) :
    ListRequest.ofPairs f s (("filterBy", v) :: pairs) =
      if f.isSome then .error .filterBy else ListRequest.ofPairs (some v) s pairs := rfl

theorem ofPairs_sortBy (f s : Option String) (v : String) (pairs : List (String × String)) :
    ListRequest.ofPairs f s (("sortBy", v) :: pairs) =
      if s.isSome then .error .sortBy else ListRequest.ofPairs f (some v) pairs := rfl

theorem ofPairs_other {n : String} (hf : n ≠ "filterBy") (hs : n ≠ "sortBy") (f s : Option String)
    (v : String) (pairs : List (String × String)) :
    ListRequest.ofPairs f s ((n, v) :: pairs) = ListRequest.ofPairs f s pairs := by
  have hf : n ≠ Parameter.filterBy.name := hf
  have hs : n ≠ Parameter.sortBy.name := hs
  rw [ListRequest.ofPairs, if_neg hf, if_neg hs]

/-- What is read from pairs, of which some before may have given the one text or the other. -/
theorem ofPairs_cases (f s : Option String) (pairs : List (String × String)) :
    (f.toList.length + times "filterBy" pairs ≤ 1 ∧ s.toList.length + times "sortBy" pairs ≤ 1 ∧
      ListRequest.ofPairs f s pairs = .ok ⟨(f.or (pairs.lookup "filterBy")).getD "",
        (s.or (pairs.lookup "sortBy")).getD ""⟩) ∨
    ((1 < f.toList.length + times "filterBy" pairs ∨ 1 < s.toList.length + times "sortBy" pairs) ∧
      ∃ p, ListRequest.ofPairs f s pairs = .error p) := by
  induction pairs generalizing f s with
  | nil =>
    left
    refine ⟨?_, ?_, ?_⟩
    · cases f <;> simp [times]
    · cases s <;> simp [times]
    · cases f <;> cases s <;> rfl
  | cons pair pairs ih =>
    obtain ⟨n, v⟩ := pair
    have hne : "filterBy" ≠ "sortBy" := by decide
    simp only [times_cons, lookup_cons]
    by_cases hf : n = "filterBy"
    · subst hf
      rw [ofPairs_filterBy, if_pos rfl, if_pos rfl, if_neg hne, if_neg hne]
      cases f with
      | some w =>
        right
        exact ⟨.inl (by simp), _, rfl⟩
      | none => simpa [Nat.add_comm] using ih (some v) s
    · rw [if_neg hf, if_neg hf]
      by_cases hs : n = "sortBy"
      · subst hs
        rw [ofPairs_sortBy, if_pos rfl, if_pos rfl]
        cases s with
        | some w =>
          right
          exact ⟨.inr (by simp), _, rfl⟩
        | none => simpa [Nat.add_comm] using ih f (some v)
      · rw [ofPairs_other hf hs, if_neg hs, if_neg hs]
        exact ih f s

/-- Unless a name is repeated, the two texts that are given are read. -/
theorem ofPairs_eq_ok (h : ¬ Repeated pairs) :
    ListRequest.ofPairs none none pairs = .ok (request pairs) := by
  unfold Repeated at h
  rcases ofPairs_cases none none pairs with ⟨-, -, hok⟩ | ⟨hmany, -⟩
  · exact hok
  · exact absurd (by simpa using hmany) h

theorem ofPairs_eq_error (h : Repeated pairs) :
    ∃ p, ListRequest.ofPairs none none pairs = .error p := by
  unfold Repeated at h
  rcases ofPairs_cases none none pairs with ⟨hf, hs, -⟩ | ⟨-, herror⟩
  · simp only [Option.toList_none, List.length_nil] at hf hs
    omega
  · exact herror

end Listing.Form
