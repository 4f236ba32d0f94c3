import Listing.Schema
import Mathlib.Data.List.Pairwise

/-!
# Names of a declared schema

`Schema.Declares s n f`: the field `f` of `s` is the one that `n` names, up to ASCII case. In a
schema that was built by declaring fields no two names are equal up to case (`distinct_ofFields`),
so a name has at most one field, and `Schema.resolve` finds it if it is there
(`resolve_eq_some_iff`, `resolve_eq_none_iff`).
-/

set_option autoImplicit false

namespace Listing.Schema

open Text

variable {s : Schema} {n m : String} {f g : Field} {fields : List Field}

/-- `f` is a field of `s` and has the name `n` up to ASCII case. -/
def Declares (s : Schema) (n : String) (f : Field) : Prop :=
  f ∈ s.fields ∧ sameWord f.name n = true

/-- No two fields have one name up to ASCII case. -/
def Distinct (fields : List Field) : Prop :=
  fields.Pairwise fun f g => sameWord f.name g.name = false

theorem mem_place (h : g ∈ place f fields) : g = f ∨ g ∈ fields := by
  induction fields with
  | nil => simpa [place] using h
  | cons a as ih =>
    rw [place] at h
    split at h
    · rcases List.mem_cons.1 h with rfl | h
      · exact .inl rfl
      · exact .inr (List.mem_cons_of_mem a h)
    · rcases List.mem_cons.1 h with rfl | h
      · exact .inr List.mem_cons_self
      · exact (ih h).imp_right (List.mem_cons_of_mem a)

/-- A word that differs from one of a case class differs from all of it. -/
theorem sameWord_eq_false (h : sameWord n m = true) {u : String} (hu : sameWord n u = false) :
    sameWord m u = false := by
  rw [sameWord_comm m u, ← sameWord_congr h u, sameWord_comm, hu]

theorem distinct_place (h : Distinct fields) (f : Field) : Distinct (place f fields) := by
  induction fields with
  | nil => simp [place, Distinct]
  | cons a as ih =>
    obtain ⟨ha, has⟩ := List.pairwise_cons.1 h
    rw [place]
    split
    · rename_i hf
      exact List.pairwise_cons.2 ⟨fun b hb => sameWord_eq_false hf (ha b hb), has⟩
    · rename_i hf
      refine List.pairwise_cons.2 ⟨fun b hb => ?_, ih has⟩
      rcases mem_place hb with rfl | hb
      · exact Bool.eq_false_iff.2 hf
      · exact ha b hb

theorem distinct_foldl_declare (h : Distinct s.fields) (fields : List Field) :
    Distinct (fields.foldl declare s).fields := by
  induction fields generalizing s with
  | nil => exact h
  | cons f fields ih => exact ih (distinct_place h f)

theorem distinct_ofFields (entity : String) (fields : List Field) :
    Distinct (ofFields entity fields).fields :=
  distinct_foldl_declare (s := empty entity) List.Pairwise.nil fields

theorem Declares.resolve_ne_none (h : s.Declares n f) : s.resolve n ≠ none := by
  intro hn
  have := List.find?_eq_none.1 hn f h.1
  exact this h.2

theorem declares_of_resolve (h : s.resolve n = some f) : s.Declares n f :=
  ⟨mem_of_resolve h, sameWord_of_resolve h⟩

theorem Distinct.eq_of_sameWord (hs : Distinct fields) (hf : f ∈ fields) (hg : g ∈ fields)
    (h : sameWord f.name g.name = true) : f = g := by
  have : Std.Symm fun f g : Field => sameWord f.name g.name = false :=
    ⟨fun a b hab => by rwa [sameWord_comm]⟩
  by_contra hne
  exact Bool.eq_false_iff.1 (List.Pairwise.forall hs hf hg hne) h

/-- With distinct names the field found is the field declared. -/
theorem resolve_eq_some_iff (hs : Distinct s.fields) : s.resolve n = some f ↔ s.Declares n f := by
  refine ⟨declares_of_resolve, fun h => ?_⟩
  obtain ⟨g, hg⟩ := Option.ne_none_iff_exists'.1 h.resolve_ne_none
  obtain ⟨hgs, hgn⟩ := declares_of_resolve hg
  have : sameWord g.name f.name = true :=
    sameWord_trans hgn (by rw [sameWord_comm]; exact h.2)
  rw [hg, hs.eq_of_sameWord hgs h.1 this]

/-- With distinct names a name declares one field. -/
theorem Declares.unique (hs : Distinct s.fields) (h : s.Declares n f) (h' : s.Declares n g) :
    f = g := by
  have hf := (resolve_eq_some_iff hs).2 h
  have hg := (resolve_eq_some_iff hs).2 h'
  exact Option.some.inj (hf.symm.trans hg)

theorem resolve_eq_none_iff : s.resolve n = none ↔ ∀ f, ¬ s.Declares n f := by
  refine ⟨?_, fun h => ?_⟩
  · intro h f hf
    exact hf.resolve_ne_none h
  · by_contra hn
    obtain ⟨g, hg⟩ := Option.ne_none_iff_exists'.1 hn
    exact h g (declares_of_resolve hg)

end Listing.Schema
