import Listing.Catalog.Select
import Listing.Proofs.Number.Order

/-!
# The order of rows

`Value.Less` and `Value.Same` say how two values of a column compare: texts by their UTF-8 bytes,
numbers by size. Sorting by a column that every row has keeps to this order, and rows that it does
not tell apart stay as they were (`pair_of_sorted`).
-/

set_option autoImplicit false

namespace Listing

open Number Text

/-! ## Values -/

namespace Value

/-- The first value comes before the second. -/
inductive Less : Value → Value → Prop
  | text {s t : String} : Utf8.encode s < Utf8.encode t → Less (.text s) (.text t)
  | integer {m n : Int} : m < n → Less (.integer m) (.integer n)
  | float {x y : Binary64} : x.value < y.value → Less (.float x) (.float y)

/-- No value comes between the two: they are equal, or both zero. -/
inductive Same : Value → Value → Prop
  | text (s : String) : Same (.text s) (.text s)
  | integer (n : Int) : Same (.integer n) (.integer n)
  | float {x y : Binary64} : x.value = y.value → Same (.float x) (.float y)

end Value

theorem Text.Utf8.encode_injective {s t : String} (h : Utf8.encode s = Utf8.encode t) : s = t := by
  have hbytes : s.toList.utf8Encode = t.toList.utf8Encode := congrArg List.toByteArray h
  rw [String.utf8Encode_toList, String.utf8Encode_toList] at hbytes
  exact String.toByteArray_inj.1 hbytes

theorem compareLex_eq_lt_iff {as bs : List UInt8} :
    List.compareLex compare as bs = .lt ↔ as < bs := by
  induction as generalizing bs with
  | nil => cases bs <;> simp [List.compareLex]
  | cons a as ih =>
    cases bs with
    | nil => simp [List.compareLex]
    | cons b bs =>
      rw [List.compareLex_cons_cons, Ordering.then_eq_lt, ih, List.cons_lt_cons_iff,
        Std.LawfulEqCmp.compare_eq_iff_eq]
      simp [Std.compare_eq_lt]

namespace Value

variable {v w : Value}

theorem order_eq_lt_iff (h : v.sameKind w = true) : v.order w = .lt ↔ v.Less w := by
  cases v with
  | text s =>
    cases w with
    | text t =>
      rw [order, Utf8.compareBytes, compareLex_eq_lt_iff]
      exact ⟨.text, fun h => by cases h; assumption⟩
    | _ => cases h
  | integer m =>
    cases w with
    | integer n =>
      rw [order, Std.compare_eq_lt]
      exact ⟨.integer, fun h => by cases h; assumption⟩
    | _ => cases h
  | float x =>
    cases w with
    | float y =>
      rw [order, Std.compare_eq_lt, Binary64.place_lt_iff]
      exact ⟨.float, fun h => by cases h; assumption⟩
    | _ => cases h

theorem order_eq_eq_iff (h : v.sameKind w = true) : v.order w = .eq ↔ v.Same w := by
  cases v with
  | text s =>
    cases w with
    | text t =>
      rw [order, Utf8.compareBytes, Std.LawfulEqCmp.compare_eq_iff_eq]
      refine ⟨fun hbytes => ?_, ?_⟩
      · rw [Utf8.encode_injective hbytes]
        exact .text t
      · intro h
        cases h
        rfl
    | _ => cases h
  | integer m =>
    cases w with
    | integer n =>
      rw [order, Std.LawfulEqCmp.compare_eq_iff_eq]
      constructor
      · intro h
        subst h
        exact .integer m
      · intro h
        cases h
        rfl
    | _ => cases h
  | float x =>
    cases w with
    | float y =>
      rw [order, Std.LawfulEqCmp.compare_eq_iff_eq, Binary64.place_eq_iff]
      exact ⟨.float, fun h => by cases h; assumption⟩
    | _ => cases h

theorem order_swap (v w : Value) : v.order w = (w.order v).swap := by
  have hbytes : Std.OrientedCmp (List.compareLex (compare : UInt8 → UInt8 → Ordering)) :=
    inferInstance
  have hint : Std.OrientedCmp (compare : Int → Int → Ordering) := inferInstance
  cases v with
  | text s =>
    cases w with
    | text t => exact hbytes.eq_swap
    | _ => rfl
  | integer m =>
    cases w with
    | integer n => exact hint.eq_swap
    | _ => rfl
  | float x =>
    cases w with
    | float y => exact hint.eq_swap
    | _ => rfl

theorem order_trans {u v w : Value} (huv : (u.order v).isLE) (hvw : (v.order w).isLE)
    (h : u.sameKind v = true) (h' : v.sameKind w = true) : (u.order w).isLE := by
  have hbytes : Std.TransCmp (List.compareLex (compare : UInt8 → UInt8 → Ordering)) := inferInstance
  have hint : Std.TransCmp (compare : Int → Int → Ordering) := inferInstance
  cases v with
  | text t =>
    cases u <;> cases h
    cases w <;> cases h'
    exact hbytes.isLE_trans huv hvw
  | integer n =>
    cases u <;> cases h
    cases w <;> cases h'
    exact hint.isLE_trans huv hvw
  | float y =>
    cases u <;> cases h
    cases w <;> cases h'
    exact hint.isLE_trans huv hvw

end Value

/-! ## Rows -/

variable {α : Type}

/-- Of two members of a list that are not the same, one stands in front of the other. -/
theorem pair_sublist_or {l : List α} {a b : α} (ha : a ∈ l) (hb : b ∈ l) (hne : a ≠ b) :
    [a, b].Sublist l ∨ [b, a].Sublist l := by
  induction l with
  | nil => cases ha
  | cons c l ih =>
    rcases List.mem_cons.1 ha with rfl | hal
    · rcases List.mem_cons.1 hb with rfl | hbl
      · exact absurd rfl hne
      · exact .inl (.cons_cons a (List.singleton_sublist.2 hbl))
    · rcases List.mem_cons.1 hb with rfl | hbl
      · exact .inr (.cons_cons b (List.singleton_sublist.2 hal))
      · exact (ih hal hbl).imp (.cons c) (.cons c)

theorem not_pair_sublist_both {l : List α} {a b : α} (hl : l.Nodup) (hab : [a, b].Sublist l) :
    ¬ [b, a].Sublist l := by
  intro hba
  induction l with
  | nil => cases hab
  | cons c l ih =>
    obtain ⟨hc, hl⟩ := List.nodup_cons.1 hl
    cases hab with
    | cons _ hab =>
      cases hba with
      | cons _ hba => exact ih hl hab hba
      | cons_cons _ hba => exact hc (hab.subset (by simp))
    | cons_cons _ hab =>
      cases hba with
      | cons _ hba => exact hc (hba.subset (by simp))
      | cons_cons _ hba => exact hc (hba.subset (by simp))

/-- In a sorted list the rows stand in order, and rows whose order may be either way stand as they
did before. -/
theorem pair_of_sorted {le : α → α → Bool} (trans : ∀ a b c, le a b → le b c → le a c)
    (total : ∀ a b, le a b || le b a) {l : List α} (hl : l.Nodup) {a b : α}
    (h : [a, b].Sublist (l.mergeSort le)) : le a b = true ∧ (le b a = true → [a, b].Sublist l) := by
  have hsorted := (List.pairwise_mergeSort trans total l).sublist h
  have hnodup : (l.mergeSort le).Nodup := (List.mergeSort_perm l le).nodup_iff.2 hl
  have hle : le a b = true := by simpa using hsorted
  refine ⟨hle, fun hba => ?_⟩
  have ha : a ∈ l := List.mem_mergeSort.1 (h.subset (by simp))
  have hb : b ∈ l := List.mem_mergeSort.1 (h.subset (by simp))
  have hne : a ≠ b := List.pairwise_pair.1 (hnodup.sublist h)
  rcases pair_sublist_or ha hb hne with hab | hab
  · exact hab
  · exact absurd (List.pair_sublist_mergeSort trans total hba hab) (not_pair_sublist_both hnodup h)

variable [Record α] {k : SortKey} {r s t : α}

/-- Every row has a value in the column, and all values are of one kind. -/
def SortKey.IsColumn (α : Type) [Record α] (k : SortKey) : Prop :=
  ∃ cell : α → Value, (∀ r, Record.cell? r k.column = some (cell r)) ∧
    ∀ r s, (cell r).sameKind (cell s) = true

theorem inOrder_singleton (k : SortKey) (r s : α) :
    Statement.inOrder [k] r s = (k.compareRows r s).isLE := by
  rw [Statement.inOrder]
  cases k.compareRows r s <;> rfl

theorem inOrder_trans (hk : k.IsColumn α) (hrs : Statement.inOrder [k] r s = true)
    (hst : Statement.inOrder [k] s t = true) : Statement.inOrder [k] r t = true := by
  obtain ⟨cell, hcell, hkind⟩ := hk
  obtain ⟨column, direction⟩ := k
  simp only [inOrder_singleton, SortKey.compareRows, hcell] at hrs hst ⊢
  cases direction with
  | asc => exact Value.order_trans hrs hst (hkind r s) (hkind s t)
  | desc => exact Value.order_trans hst hrs (hkind t s) (hkind s r)

theorem inOrder_total (hk : k.IsColumn α) (r s : α) :
    (Statement.inOrder [k] r s || Statement.inOrder [k] s r) = true := by
  obtain ⟨cell, hcell, -⟩ := hk
  obtain ⟨column, direction⟩ := k
  simp only [inOrder_singleton, SortKey.compareRows, hcell, Value.order_swap (cell s)]
  cases direction <;> cases (cell r).order (cell s) <;> rfl

end Listing
