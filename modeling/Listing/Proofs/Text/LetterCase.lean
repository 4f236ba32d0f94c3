import Listing.Proofs.Text.Cut
import Listing.Text.Word
import Mathlib

/-!
# Equality up to the case of ASCII letters

`SameLetter c d`: the characters are equal, or one is an ASCII capital and the other its small
letter. Two words are the same if they are so character by character (`sameWord_iff_sameLetters`);
no letter outside ASCII is the same as another one.
-/

set_option autoImplicit false

namespace Listing.Text

/-- Equal characters, or the two forms of an ASCII letter. -/
inductive SameLetter : Char → Char → Prop
  | same (c : Char) : SameLetter c c
  | small {c d : Char} : 'A' ≤ c → c ≤ 'Z' → d.toNat = c.toNat + 32 → SameLetter c d
  | capital {c d : Char} : 'A' ≤ d → d ≤ 'Z' → c.toNat = d.toNat + 32 → SameLetter c d

/-- Words of one length whose characters are the same up to ASCII case. -/
def SameLetters (s t : String) : Prop := List.Forall₂ SameLetter s.toList t.toList

variable {c d : Char} {s t : String}

theorem isUpper_iff : c.isUpper = true ↔ 'A' ≤ c ∧ c ≤ 'Z' := by
  simp [Char.isUpper, Char.le_def]

theorem isUpper_iff_toNat : c.isUpper = true ↔ 65 ≤ c.toNat ∧ c.toNat ≤ 90 := by
  rw [isUpper_iff, Char.le_def, Char.le_def, UInt32.le_iff_toNat_le, UInt32.le_iff_toNat_le]
  exact Iff.rfl

theorem isLower_iff_toNat : c.isLower = true ↔ 97 ≤ c.toNat ∧ c.toNat ≤ 122 := by
  simp only [Char.isLower, Bool.and_eq_true, decide_eq_true_eq, ge_iff_le, UInt32.le_iff_toNat_le]
  exact Iff.rfl

theorem isDigit_iff_toNat : c.isDigit = true ↔ 48 ≤ c.toNat ∧ c.toNat ≤ 57 := by
  simp only [Char.isDigit, Bool.and_eq_true, decide_eq_true_eq, ge_iff_le, UInt32.le_iff_toNat_le]
  exact Iff.rfl

theorem toNat_toLower (h : c.isUpper = true) : c.toLower.toNat = c.toNat + 32 := by
  have hle := (isUpper_iff_toNat.1 h).2
  have hvalid : (c.toNat + 32).isValidChar := .inl (by omega)
  rw [Char.toLower_eq_of_isUpper h, Char.toNat_ofNat, if_pos hvalid]

theorem toLower_eq_iff : c.toLower = d.toLower ↔ SameLetter c d := by
  rw [← Char.toNat_inj]
  constructor
  · intro h
    by_cases hc : c.isUpper = true <;> by_cases hd : d.isUpper = true
    · rw [toNat_toLower hc, toNat_toLower hd] at h
      rw [Char.toNat_inj.1 (show c.toNat = d.toNat by omega)]
      exact .same d
    · rw [toNat_toLower hc, Char.toLower_eq_of_not_isUpper hd] at h
      exact .small (isUpper_iff.1 hc).1 (isUpper_iff.1 hc).2 h.symm
    · rw [Char.toLower_eq_of_not_isUpper hc, toNat_toLower hd] at h
      exact .capital (isUpper_iff.1 hd).1 (isUpper_iff.1 hd).2 h
    · rw [Char.toLower_eq_of_not_isUpper hc, Char.toLower_eq_of_not_isUpper hd] at h
      rw [Char.toNat_inj.1 h]
      exact .same d
  · -- a small letter lies past the capitals, so folding leaves it
    intro h
    cases h with
    | same => rfl
    | small hA hZ hd =>
      have hc := isUpper_iff.2 ⟨hA, hZ⟩
      have hbounds := isUpper_iff_toNat.1 hc
      have hd' : ¬ d.isUpper = true := fun h => by
        have := isUpper_iff_toNat.1 h
        omega
      rw [toNat_toLower hc, Char.toLower_eq_of_not_isUpper hd', hd]
    | capital hA hZ hc =>
      have hd := isUpper_iff.2 ⟨hA, hZ⟩
      have hbounds := isUpper_iff_toNat.1 hd
      have hc' : ¬ c.isUpper = true := fun h => by
        have := isUpper_iff_toNat.1 h
        omega
      rw [toNat_toLower hd, Char.toLower_eq_of_not_isUpper hc', hc]

/-- Looking up names folds the case of ASCII letters and nothing else. -/
theorem sameWord_iff_sameLetters : sameWord s t = true ↔ SameLetters s t := by
  rw [sameWord_iff, foldCase, foldCase, ← List.forall₂_eq_eq_eq, List.forall₂_map_left_iff,
    List.forall₂_map_right_iff, SameLetters]
  simp only [toLower_eq_iff]

theorem SameLetters.eq_empty_iff (h : SameLetters s t) : s = "" ↔ t = "" := by
  have hlength := List.Forall₂.length_eq h
  rw [← String.toList_eq_nil_iff, ← String.toList_eq_nil_iff, ← List.length_eq_zero_iff, hlength,
    List.length_eq_zero_iff]

/-- A dot is the same as no other character. -/
theorem SameLetter.eq_dot_iff (h : SameLetter c d) : c = '.' ↔ d = '.' := by
  have hdot : ∀ {e : Char}, 64 < e.toNat → e ≠ '.' := by
    rintro e he rfl
    exact absurd he (by decide)
  cases h with
  | same => exact Iff.rfl
  | small hA hZ hd =>
    have hc := (isUpper_iff_toNat.1 (isUpper_iff.2 ⟨hA, hZ⟩)).1
    exact iff_of_false (hdot (by omega)) (hdot (by omega))
  | capital hA hZ hc =>
    have hd := (isUpper_iff_toNat.1 (isUpper_iff.2 ⟨hA, hZ⟩)).1
    exact iff_of_false (hdot (by omega)) (hdot (by omega))

theorem SameLetters.dot_mem_iff (h : SameLetters s t) : '.' ∈ s.toList ↔ '.' ∈ t.toList := by
  unfold SameLetters at h
  generalize s.toList = cs at h ⊢
  generalize t.toList = ds at h ⊢
  induction h with
  | nil => exact Iff.rfl
  | cons hcd _ ih => rw [List.mem_cons, List.mem_cons, ih, eq_comm, hcd.eq_dot_iff, eq_comm]

/-- Whether a word can stand before a dot does not depend on its case. -/
theorem SameLetters.segment_iff (h : SameLetters s t) : Segment s ↔ Segment t := by
  constructor
  · intro hs
    exact ⟨mt h.eq_empty_iff.2 hs.ne_empty, mt h.dot_mem_iff.2 hs.dotFree⟩
  · intro ht
    exact ⟨mt h.eq_empty_iff.1 ht.ne_empty, mt h.dot_mem_iff.1 ht.dotFree⟩

end Listing.Text
