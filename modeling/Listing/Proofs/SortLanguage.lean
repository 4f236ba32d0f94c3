import Listing.Proofs.Rejection
import Listing.Proofs.Schema.Names
import Listing.Proofs.SortOrder
import Mathlib.Data.List.Basic

/-!
# The language of sort orders

`Accepted schema x o`: the text `x` is a sort order for `schema` and `o` is what it asks for, said
by concatenation alone. `Flaw schema x r`: the rejection `r` holds of `x`, whatever else is wrong
with it. Compiling accepts exactly the accepted texts and reports the first flaw of every other one
in the order of `Rejection.stage` (`compile_accepts_exactly`).
-/

set_option autoImplicit false

namespace Listing.SortOrder

open Text Rejection

/-- The words for the directions. -/
def directions : List String := ["asc", "desc"]

/-- The sort orders for a schema, and what each asks for. -/
inductive Accepted (schema : Schema) (x : String) (o : SortOrder) : Prop
  | mk {f w : String} {d : Schema.Field} : x = f ++ "." ++ w → Segment f → w ∈ directions →
      schema.Declares f d → d.type = .string ∨ d.type = .integer ∨ d.type = .float → o.field = d →
      o.fragment = d.name ++ " " ++ w → Accepted schema x o

/-- What can be wrong with a sort order, each said without regard to the others. -/
inductive Flaw (schema : Schema) (x : String) : Rejection → Prop
  | count {segs : List String} : Cut x segs → segs.length ≠ 2 → Flaw schema x (.malformed .sortBy x)
  | empty {segs : List String} : Cut x segs → "" ∈ segs → Flaw schema x (.emptySegment .sortBy x)
  | direction {f w : String} : Cut x [f, w] → w ∉ directions → Flaw schema x (.invalidDirection w)
  | field {f : String} {rest : List String} : Cut x (f :: rest) →
      (∀ d, ¬ schema.Declares f d) → Flaw schema x (.unknownField f schema.entity)
  | type {f : String} {rest : List String} {d : Schema.Field} : Cut x (f :: rest) →
      schema.Declares f d → d.type = .other → Flaw schema x (.notSortable d.name)

variable {schema : Schema} {x f w : String} {o : SortOrder} {r r' : Rejection}

theorem mem_directions_iff : w ∈ directions ↔ ∃ d : Direction, d.text = w := by
  refine ⟨fun h => ?_, ?_⟩
  · simp only [directions, List.mem_cons, List.not_mem_nil, or_false] at h
    rcases h with rfl | rfl
    exacts [⟨.asc, rfl⟩, ⟨.desc, rfl⟩]
  · intro h
    obtain ⟨d, rfl⟩ := h
    cases d <;> simp [directions, Direction.text]

theorem ofText?_eq_none_iff : Direction.ofText? w = none ↔ w ∉ directions := by
  rw [mem_directions_iff, not_exists, Option.eq_none_iff_forall_ne_some]
  simp only [ne_eq, ofText?_eq_some_iff]

theorem isScalar_iff {t : FieldType} :
    t.isScalar = true ↔ t = .string ∨ t = .integer ∨ t = .float := by
  cases t <;> decide

theorem isScalar_eq_false_iff {t : FieldType} : t.isScalar = false ↔ t = .other := by
  cases t <;> decide

/-! ## Accepted texts -/

theorem direction_dotFree (d : Direction) : '.' ∉ d.text.toList := by
  cases d <;> decide

theorem accepted_iff : Accepted schema x o ↔
    ∃ f, Cut x [f, o.direction.text] ∧ f ≠ "" ∧ schema.Declares f o.field ∧
      o.field.type.isScalar = true := by
  constructor
  · intro h
    obtain ⟨hx, hf, hw, hd, ht, rfl, hfragment⟩ := h
    obtain rfl : o.direction.text = _ := by simpa [fragment] using hfragment
    have hc := cut_two_iff.2 ⟨hf.dotFree, direction_dotFree o.direction, hx⟩
    exact ⟨_, hc, hf.ne_empty, hd, isScalar_iff.2 ht⟩
  · intro h
    obtain ⟨f, hc, hf, hd, hscalar⟩ := h
    have hseg : Segment f := ⟨hf, hc.dotFree f (by simp)⟩
    have hw : o.direction.text ∈ directions := mem_directions_iff.2 ⟨o.direction, rfl⟩
    exact .mk (cut_two_iff.1 hc).2.2 hseg hw hd (isScalar_iff.1 hscalar) rfl rfl

theorem compile_eq_ok_some_iff (hs : Schema.Distinct schema.fields) :
    compile schema x = .ok (some o) ↔ Accepted schema x o := by
  simp only [compile_eq_some_iff, accepted_iff, Schema.resolve_eq_some_iff hs]

/-! ## Flaws -/

/-- The flaws of a text of two segments. -/
inductive FlawOfTwo (schema : Schema) (x f w : String) : Rejection → Prop
  | empty : f = "" ∨ w = "" → FlawOfTwo schema x f w (.emptySegment .sortBy x)
  | direction : w ∉ directions → FlawOfTwo schema x f w (.invalidDirection w)
  | field : (∀ d, ¬ schema.Declares f d) → FlawOfTwo schema x f w (.unknownField f schema.entity)
  | type {d : Schema.Field} : schema.Declares f d → d.type = .other →
      FlawOfTwo schema x f w (.notSortable d.name)

theorem Flaw.of_two (h : Flaw schema x r) (hc : Cut x [f, w]) : FlawOfTwo schema x f w r := by
  cases h with
  | count hc' hl => exact absurd (congrArg List.length (hc'.unique hc)) hl
  | empty hc' he =>
    rw [hc'.unique hc] at he
    exact .empty (by simpa [eq_comm] using he)
  | direction hc' hw =>
    cases hc.unique hc'
    exact .direction hw
  | field hc' hd =>
    cases hc.unique hc'
    exact .field hd
  | type hc' hd ht =>
    cases hc.unique hc'
    exact .type hd ht

/-- A text has one flaw of a stage. -/
theorem Flaw.eq_of_stage_eq (hs : Schema.Distinct schema.fields) (h : Flaw schema x r)
    (h' : Flaw schema x r') (hr : r.stage = r'.stage) : r = r' := by
  cases h with
  | count =>
    cases h' with
    | count => rfl
    | _ => exact absurd hr (by simp [stage])
  | empty =>
    cases h' with
    | empty => rfl
    | _ => exact absurd hr (by simp [stage])
  | direction hc =>
    cases h' with
    | direction hc' => cases hc.unique hc'; rfl
    | _ => exact absurd hr (by simp [stage])
  | field hc =>
    cases h' with
    | field hc' => cases hc.unique hc'; rfl
    | _ => exact absurd hr (by simp [stage])
  | type hc hd =>
    cases h' with
    | type hc' hd' => cases hc.unique hc'; rw [hd.unique hs hd']
    | _ => exact absurd hr (by simp [stage])

/-- The flaws of the text alone do not depend on the schema. -/
theorem Flaw.of_stage_lt {schema' : Schema} (h : Flaw schema x r) (hr : r.stage < 3) :
    Flaw schema' x r := by
  cases h with
  | count hc hl => exact .count hc hl
  | empty hc he => exact .empty hc he
  | direction hc hw => exact .direction hc hw
  | _ => exact absurd hr (by simp [stage])

/-- An accepted text has none of the flaws. -/
theorem Accepted.not_flaw (hs : Schema.Distinct schema.fields) (h : Accepted schema x o) :
    ¬ Flaw schema x r := by
  intro hr
  obtain ⟨f, hc, hf, hd, hscalar⟩ := accepted_iff.1 h
  cases hr.of_two hc with
  | empty he => exact he.elim hf (direction_ne_empty o.direction)
  | direction hw => exact hw (mem_directions_iff.2 ⟨o.direction, rfl⟩)
  | field hd' => exact hd' _ hd
  | type hd' ht =>
    rw [hd'.unique hs hd, ← isScalar_eq_false_iff, hscalar] at ht
    cases ht

/-! ## What compiling rejects -/

/-- A text is rejected for its first flaw: a check that passes rules out the flaw it looks for. -/
theorem first_of_compile_error (hs : Schema.Distinct schema.fields)
    (h : compile schema x = .error r) : First (Flaw schema x) r := by
  unfold compile at h
  split at h
  · cases h
  split at h
  · rename_i f w hsegs
    have hc : Cut x [f, w] := hsegs ▸ cut_segments x
    split at h
    · rename_i he
      cases h
      have he : f = "" ∨ w = "" := by simpa using he
      refine ⟨.empty hc (by simpa [eq_comm] using he), fun r' h' => ?_⟩
      cases h'.of_two hc <;> simp [stage]
    rename_i he
    have he : ¬ (f = "" ∨ w = "") := by simpa using he
    split at h
    · rename_i hw
      cases h
      refine ⟨.direction hc (ofText?_eq_none_iff.1 hw), fun r' h' => ?_⟩
      cases h'.of_two hc with
      | empty he' => exact absurd he' he
      | _ => simp [stage]
    rename_i d hw
    have hw : w ∈ directions := mem_directions_iff.2 ⟨d, ofText?_eq_some_iff.1 hw⟩
    split at h
    · rename_i hd
      cases h
      refine ⟨.field hc (Schema.resolve_eq_none_iff.1 hd), fun r' h' => ?_⟩
      cases h'.of_two hc with
      | empty he' => exact absurd he' he
      | direction hw' => exact absurd hw hw'
      | _ => simp [stage]
    rename_i d hd
    have hd : schema.Declares f d := (Schema.resolve_eq_some_iff hs).1 hd
    split at h
    · cases h
    · rename_i ht
      cases h
      have ht : d.type = .other := isScalar_eq_false_iff.1 (Bool.eq_false_iff.2 ht)
      refine ⟨.type hc hd ht, fun r' h' => ?_⟩
      cases h'.of_two hc with
      | empty he' => exact absurd he' he
      | direction hw' => exact absurd hw hw'
      | field hd' => exact absurd hd (hd' d)
      | type => simp [stage]
  · rename_i hsegs
    cases h
    refine ⟨.count (cut_segments x) fun hl => ?_, fun r' _ => Nat.zero_le _⟩
    obtain ⟨f, w, hfw⟩ := List.length_eq_two.1 hl
    exact hsegs f w hfw

theorem compile_eq_error_iff (hs : Schema.Distinct schema.fields) :
    compile schema x = .error r ↔ x ≠ "" ∧ First (Flaw schema x) r := by
  constructor
  · intro h
    refine ⟨fun hx => ?_, first_of_compile_error hs h⟩
    rw [compile_eq_none_iff.2 hx] at h
    cases h
  · intro h
    obtain ⟨hx, hr⟩ := h
    cases hcompiled : compile schema x with
    | error r' =>
      have hr' := first_of_compile_error hs hcompiled
      rw [First.unique (fun _ _ => Flaw.eq_of_stage_eq hs) hr' hr]
    | ok o? =>
      cases o? with
      | none => exact absurd (compile_eq_none_iff.1 hcompiled) hx
      | some o => exact absurd hr.1 (((compile_eq_ok_some_iff hs).1 hcompiled).not_flaw hs)

/-- Compiling accepts exactly the sort orders of the schema, and of every other text it reports the
first flaw; the first three causes do not depend on the schema. -/
theorem compile_accepts_exactly (entity : String) (declared : List Schema.Field) (x : String) :
    let schema := Schema.ofFields entity declared
    (compile schema x = .ok none ↔ x = "") ∧
    (∀ o, compile schema x = .ok (some o) ↔ Accepted schema x o) ∧
    (∀ r, compile schema x = .error r ↔ x ≠ "" ∧ First (Flaw schema x) r) ∧
    ∀ entity' declared' r, r.stage < 3 →
      (compile schema x = .error r ↔ compile (.ofFields entity' declared') x = .error r) := by
  have hs := Schema.distinct_ofFields entity declared
  refine ⟨compile_eq_none_iff, fun o => compile_eq_ok_some_iff hs,
    fun r => compile_eq_error_iff hs, fun entity' declared' r hr => ?_⟩
  rw [compile_eq_error_iff hs, compile_eq_error_iff (Schema.distinct_ofFields entity' declared')]
  refine and_congr_right fun _ => First.congr_iff (fun r hr => ?_) hr
  exact ⟨fun h => h.of_stage_lt hr, fun h => h.of_stage_lt hr⟩

end Listing.SortOrder
