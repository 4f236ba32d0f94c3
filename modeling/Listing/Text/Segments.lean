/-!
# Dotted segments

An expression is cut at its dots. `segments` always gives at least one segment, none of which holds
a dot, and joining them with dots gives the text back (`join_segments`), so a text and its segments
determine each other.
-/

set_option autoImplicit false

namespace Listing.Text

/-- The pieces of a text between its dots. -/
def segments (s : String) : List String := (s.toList.splitOn '.').map String.ofList

/-- Segments put together again with dots between them. -/
def join (segs : List String) : String :=
  String.ofList (['.'].intercalate (segs.map String.toList))

theorem map_toList_segments (s : String) :
    (segments s).map String.toList = s.toList.splitOn '.' := by
  simp [segments, Function.comp_def]

theorem segments_ne_nil (s : String) : segments s ≠ [] := by
  simp [segments, List.splitOn_ne_nil]

@[simp] theorem join_segments (s : String) : join (segments s) = s := by
  simp [join, map_toList_segments, List.intercalate_splitOn]

/-- Segments without dots survive being joined and cut again. -/
theorem segments_join {segs : List String} (h : ∀ s ∈ segs, '.' ∉ s.toList) (hne : segs ≠ []) :
    segments (join segs) = segs := by
  have hs : (['.'].intercalate (segs.map String.toList)).splitOn '.' = segs.map String.toList :=
    List.splitOn_intercalate '.' (by simpa using h) (by simpa using hne)
  simp [segments, join, hs, Function.comp_def]

end Listing.Text
