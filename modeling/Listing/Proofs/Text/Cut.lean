import Listing.Text.Segments

/-!
# Cuts at dots

`Cut x segs`: the text `x` is the segments `segs` with a dot between any two of them, and no segment
holds a dot. Every text has exactly one cut (`cut_segments`, `Cut.unique`), so a language of dotted
texts can be stated by concatenation alone.
-/

set_option autoImplicit false

namespace Listing.Text

/-- `segs` with dots between them make `x`, and hold none themselves. -/
structure Cut (x : String) (segs : List String) : Prop where
  ne_nil : segs ≠ []
  dotFree : ∀ s ∈ segs, '.' ∉ s.toList
  text : x = ".".intercalate segs

/-- A text that can stand before, between or behind dots. -/
structure Segment (s : String) : Prop where
  ne_empty : s ≠ ""
  dotFree : '.' ∉ s.toList

variable {x f o v : String} {segs segs' : List String}

/-- No piece of a split holds the separator. -/
theorem not_mem_of_mem_splitOn {a : Char} {cs l : List Char} (h : l ∈ cs.splitOn a) : a ∉ l := by
  induction cs generalizing l with
  | nil =>
    have : l = [] := by simpa using h
    simp [this]
  | cons c cs ih =>
    rw [List.splitOn_cons_eq_if_modifyHead] at h
    split at h
    · rcases List.mem_cons.1 h with rfl | h
      · exact List.not_mem_nil
      · exact ih h
    · rename_i hc
      obtain ⟨p, ps, hp⟩ := List.exists_cons_of_ne_nil (List.splitOn_ne_nil a cs)
      rw [hp, List.modifyHead_cons] at h
      rcases List.mem_cons.1 h with rfl | h
      · have := ih (l := p) (by simp [hp])
        simp only [List.mem_cons, not_or]
        exact ⟨fun h' => hc (by simp [h']), this⟩
      · exact ih (by simp [hp, h])

theorem join_eq_intercalate (segs : List String) : join segs = ".".intercalate segs :=
  String.toList_injective (by simp [join])

theorem cut_segments (x : String) : Cut x (segments x) where
  ne_nil := segments_ne_nil x
  dotFree s hs := by
    have h : s.toList ∈ (segments x).map String.toList := List.mem_map_of_mem hs
    exact not_mem_of_mem_splitOn (map_toList_segments x ▸ h)
  text := by rw [← join_eq_intercalate, join_segments]

theorem Cut.segments_eq (h : Cut x segs) : segments x = segs := by
  rw [h.text, ← join_eq_intercalate, segments_join h.dotFree h.ne_nil]

theorem Cut.unique (h : Cut x segs) (h' : Cut x segs') : segs = segs' :=
  h.segments_eq.symm.trans h'.segments_eq

theorem cut_two_iff : Cut x [f, v] ↔ '.' ∉ f.toList ∧ '.' ∉ v.toList ∧ x = f ++ "." ++ v := by
  refine ⟨fun h => ?_, ?_⟩
  · exact ⟨h.dotFree f (by simp), h.dotFree v (by simp),
      by simpa [String.append_assoc] using h.text⟩
  · intro h
    obtain ⟨hf, hv, rfl⟩ := h
    exact ⟨by simp, by simp [hf, hv], by simp [String.append_assoc]⟩

theorem cut_three_iff : Cut x [f, o, v] ↔
    '.' ∉ f.toList ∧ '.' ∉ o.toList ∧ '.' ∉ v.toList ∧ x = f ++ "." ++ o ++ "." ++ v := by
  refine ⟨fun h => ?_, ?_⟩
  · exact ⟨h.dotFree f (by simp), h.dotFree o (by simp), h.dotFree v (by simp),
      by simpa [String.append_assoc] using h.text⟩
  · intro h
    obtain ⟨hf, ho, hv, rfl⟩ := h
    exact ⟨by simp, by simp [hf, ho, hv], by simp [String.append_assoc]⟩

/-- The empty text is one empty segment. -/
theorem cut_empty : Cut "" [""] := ⟨by simp, by simp, by simp⟩

theorem Cut.eq_empty_iff (h : Cut x segs) : x = "" ↔ segs = [""] := by
  constructor
  · intro hx
    subst hx
    exact h.unique cut_empty
  · intro hsegs
    rw [h.text, hsegs]
    rfl

end Listing.Text
