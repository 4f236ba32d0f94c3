import Listing.Number.Count
import Listing.Proofs.Number.Places

/-!
# Which texts are counts

A count is digits behind an optional plus sign whose value the limit allows (`IsCount`). Any other
text is empty, a sign alone, or goes wrong first at one character: what stands before it is still
within the limit, and with it there is a character that is no digit or a value beyond the limit
(`CountFault`). The reader gives the count of the one kind of text and the fault of the other
(`readCount_eq_ok_iff`, `readCount_eq_error_iff`).
-/

set_option autoImplicit false

namespace Listing.Number

/-- Digits, perhaps none, of a value that the limit allows. -/
def Allowed (limit : ℕ) (ds : List Char) : Prop := AllDigits ds ∧ placeValue ds ≤ limit

/-- What stands behind an optional plus sign. -/
def unsigned : List Char → List Char
  | '+' :: cs => cs
  | cs => cs

/-- The text is an optional plus sign and one or more digits whose value is `n`, which the limit
allows. -/
structure IsCount (limit : ℕ) (s : String) (n : ℕ) : Prop where
  nonempty : unsigned s.toList ≠ []
  digits : AllDigits (unsigned s.toList)
  value : n = placeValue (unsigned s.toList)
  le : n ≤ limit

/-- Zeros in front of the digits of a text have no part in its value. -/
def IgnoresZeros (s : String) (n : ℕ) : Prop := ∀ (sign : List Char) (k : ℕ) (ds : List Char),
  sign = [] ∨ sign = ['+'] → AllDigits ds → s.toList = sign ++ (List.replicate k '0' ++ ds) →
    n = placeValue ds

/-- What is wrong with a text that is no count. A wrong character and a value beyond the limit are
told at the first character where there is one of them. -/
inductive CountFault (limit : ℕ) (s : String) : CountError → Prop
  | empty : s = "" → CountFault limit s .empty
  | plus : s = "+" → CountFault limit s .invalidDigit
  | digit {front back : List Char} {c : Char} : unsigned s.toList = front ++ c :: back →
      Allowed limit front → c.isDigit = false → CountFault limit s .invalidDigit
  | large {front back : List Char} {c : Char} : unsigned s.toList = front ++ c :: back →
      Allowed limit front → c.isDigit = true → limit < placeValue (front ++ [c]) →
      CountFault limit s .tooLarge

variable {limit n : ℕ} {s : String} {cs ds fs back : List Char} {c : Char} {e : CountError}

/-! ## Digits within the limit -/

theorem placeValue_concat (ds : List Char) (d : Char) :
    placeValue (ds ++ [d]) = 10 * placeValue ds + digitValue d := by
  rw [← ofDigits_eq_placeValue, ofDigits_concat, ofDigits_eq_placeValue]

theorem placeValue_zeros (k : ℕ) (ds : List Char) :
    placeValue (List.replicate k '0' ++ ds) = placeValue ds := by
  rw [← ofDigits_eq_placeValue, ofDigits_append, ofDigits_zeros, zero_mul, zero_add,
    ofDigits_eq_placeValue]

theorem allowed_nil (limit : ℕ) : Allowed limit [] :=
  ⟨fun _ h => absurd h List.not_mem_nil, Nat.zero_le _⟩

theorem allowed_concat_iff :
    Allowed limit (ds ++ [c]) ↔
      Allowed limit ds ∧ c.isDigit = true ∧ placeValue (ds ++ [c]) ≤ limit := by
  have hle : placeValue ds ≤ placeValue (ds ++ [c]) := by
    rw [placeValue_concat]
    omega
  unfold Allowed AllDigits
  simp only [List.mem_append, List.mem_singleton, or_imp, forall_and, forall_eq]
  exact ⟨fun ⟨⟨hds, hc⟩, hlimit⟩ => ⟨⟨hds, hle.trans hlimit⟩, hc, hlimit⟩,
    fun ⟨⟨hds, _⟩, hc, hlimit⟩ => ⟨⟨hds, hc⟩, hlimit⟩⟩

theorem Allowed.of_append (h : Allowed limit (ds ++ fs)) : Allowed limit ds := by
  induction fs using List.reverseRecOn with
  | nil => rwa [List.append_nil] at h
  | append_singleton fs f ih =>
    rw [← List.append_assoc] at h
    exact ih (allowed_concat_iff.1 h).1

/-- A text is digits within the limit, or there is a first character with which it is not. -/
theorem allowed_or_exists_first (limit : ℕ) (cs : List Char) : Allowed limit cs ∨
    ∃ front c back, cs = front ++ c :: back ∧ Allowed limit front ∧
      ¬ Allowed limit (front ++ [c]) := by
  induction cs using List.reverseRecOn with
  | nil => exact .inl (allowed_nil limit)
  | append_singleton cs c ih =>
    rcases ih with hcs | ⟨front, d, back, rfl, hfront, hd⟩
    · by_cases hc : Allowed limit (cs ++ [c])
      · exact .inl hc
      · exact .inr ⟨cs, c, [], rfl, hcs, hc⟩
    · exact .inr ⟨front, d, back ++ [c], by simp, hfront, hd⟩

/-! ## Reading -/

/-- Digits within the limit are read to their value, and what follows them is read on from it. -/
theorem countFrom_append (h : Allowed limit (ds ++ fs)) :
    countFrom limit (placeValue ds) (fs ++ back) =
      countFrom limit (placeValue (ds ++ fs)) back := by
  induction fs generalizing ds with
  | nil => rw [List.append_nil, List.nil_append]
  | cons f fs ih =>
    rw [← List.singleton_append, ← List.append_assoc] at h
    obtain ⟨-, hf, hlimit⟩ := allowed_concat_iff.1 h.of_append
    rw [placeValue_concat] at hlimit
    rw [List.cons_append, countFrom, if_pos hf, if_pos hlimit, ← placeValue_concat, ih h,
      List.append_assoc, List.singleton_append]

theorem countFrom_of_allowed (h : Allowed limit cs) :
    countFrom limit 0 cs = .ok (placeValue cs) := by
  have hread : countFrom limit (placeValue []) (cs ++ []) =
      countFrom limit (placeValue ([] ++ cs)) [] :=
    countFrom_append h
  rwa [List.append_nil] at hread

theorem countFrom_of_not_digit (hds : Allowed limit ds) (hc : c.isDigit = false) :
    countFrom limit 0 (ds ++ c :: back) = .error .invalidDigit := by
  rw [show 0 = placeValue [] from rfl, countFrom_append hds, countFrom, if_neg (by simp [hc])]

theorem countFrom_of_lt (hds : Allowed limit ds) (hc : c.isDigit = true)
    (h : limit < placeValue (ds ++ [c])) :
    countFrom limit 0 (ds ++ c :: back) = .error .tooLarge := by
  rw [placeValue_concat] at h
  rw [show 0 = placeValue [] from rfl, countFrom_append hds, countFrom, if_pos hc, List.nil_append,
    if_neg (Nat.not_le.2 h)]

theorem unsigned_of_digits (h : AllDigits ds) : unsigned ds = ds := by
  unfold unsigned
  split
  · exact absurd h.head (by decide)
  · rfl

theorem readCount_of_unsigned (h : unsigned s.toList = ds) (hne : ds ≠ []) :
    readCount limit s = countFrom limit 0 ds := by
  subst h
  unfold readCount unsigned at *
  split <;> simp_all

theorem IsCount.read (h : IsCount limit s n) : readCount limit s = .ok n := by
  rw [readCount_of_unsigned rfl h.nonempty,
    countFrom_of_allowed ⟨h.digits, h.value ▸ h.le⟩, ← h.value]

theorem IsCount.unique {m : ℕ} (h : IsCount limit s n) (h' : IsCount limit s m) : n = m :=
  h.value.trans h'.value.symm

theorem CountFault.read (h : CountFault limit s e) : readCount limit s = .error e := by
  cases h with
  | empty hs => rw [hs]; rfl
  | plus hs => rw [hs]; rfl
  | digit hs hfront hc => rw [readCount_of_unsigned hs (by simp), countFrom_of_not_digit hfront hc]
  | large hs hfront hc hlarge =>
    rw [readCount_of_unsigned hs (by simp), countFrom_of_lt hfront hc hlarge]

/-- Only the empty text and the plus sign have nothing behind an optional plus sign. -/
theorem eq_of_unsigned_eq_nil (h : unsigned s.toList = []) : s = "" ∨ s = "+" := by
  unfold unsigned at h
  split at h
  · rename_i cs hs
    exact .inr (String.toList_inj.1 (by rw [hs, h]; rfl))
  · exact .inl (String.toList_inj.1 h)

/-- A text is a count or has a fault. -/
theorem isCount_or_countFault (limit : ℕ) (s : String) :
    (∃ n, IsCount limit s n) ∨ ∃ e, CountFault limit s e := by
  by_cases hs : unsigned s.toList = []
  · rcases eq_of_unsigned_eq_nil hs with hs | hs
    · exact .inr ⟨_, .empty hs⟩
    · exact .inr ⟨_, .plus hs⟩
  · rcases allowed_or_exists_first limit (unsigned s.toList) with
      h | ⟨front, c, back, hcs, hfront, hc⟩
    · exact .inl ⟨_, hs, h.1, rfl, h.2⟩
    · by_cases hdigit : c.isDigit = true
      · exact .inr ⟨_, .large hcs hfront hdigit
          (Nat.not_le.1 fun hle => hc (allowed_concat_iff.2 ⟨hfront, hdigit, hle⟩))⟩
      · exact .inr ⟨_, .digit hcs hfront (Bool.not_eq_true _ ▸ hdigit)⟩

theorem readCount_eq_ok_iff : readCount limit s = .ok n ↔ IsCount limit s n := by
  refine ⟨fun h => ?_, IsCount.read⟩
  rcases isCount_or_countFault limit s with ⟨m, hm⟩ | ⟨e, he⟩
  · cases hm.read.symm.trans h
    exact hm
  · cases he.read.symm.trans h

theorem readCount_eq_error_iff : readCount limit s = .error e ↔ CountFault limit s e := by
  refine ⟨fun h => ?_, CountFault.read⟩
  rcases isCount_or_countFault limit s with ⟨m, hm⟩ | ⟨e', he⟩
  · cases hm.read.symm.trans h
  · cases he.read.symm.trans h
    exact he

theorem IsCount.ignoresZeros (h : IsCount limit s n) : IgnoresZeros s n := by
  intro sign k ds hsign hds hs
  have hunsigned : unsigned s.toList = List.replicate k '0' ++ ds := by
    rw [hs]
    rcases hsign with rfl | rfl
    · exact unsigned_of_digits ((allDigits_zeros k).append hds)
    · rfl
  rw [h.value, hunsigned, placeValue_zeros]

end Listing.Number
