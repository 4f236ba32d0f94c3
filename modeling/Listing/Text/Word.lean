/-!
# Words up to ASCII case

Names are looked up without regard to the case of ASCII letters. `foldCase` is the representative
of a case class and `sameWord` its kernel; letters outside ASCII are never folded.
-/

set_option autoImplicit false

namespace Listing.Text

/-- The characters of a text, ASCII capitals made small. -/
def foldCase (s : String) : List Char := s.toList.map Char.toLower

/-- Equality up to ASCII case. -/
def sameWord (s t : String) : Bool := foldCase s == foldCase t

variable {s t u : String}

theorem sameWord_iff : sameWord s t = true ↔ foldCase s = foldCase t := beq_iff_eq

@[simp] theorem sameWord_refl (s : String) : sameWord s s = true := sameWord_iff.2 rfl

theorem sameWord_comm (s t : String) : sameWord s t = sameWord t s := by
  rw [Bool.eq_iff_iff, sameWord_iff, sameWord_iff, eq_comm]

theorem sameWord_trans (h : sameWord s t = true) (h' : sameWord t u = true) :
    sameWord s u = true :=
  sameWord_iff.2 ((sameWord_iff.1 h).trans (sameWord_iff.1 h'))

theorem sameWord_congr (h : sameWord s t = true) (u : String) : sameWord u s = sameWord u t := by
  unfold sameWord; rw [sameWord_iff.1 h]

end Listing.Text
