import Listing.Number.Layout
import Listing.Proofs.Number.Shortest

/-!
# Written numbers

The text of a decimal, in whichever of its forms, consists of digits that no zero leads, and a
fraction or a power of ten behind them (`Numeral`); as a literal it denotes the decimal
(`numeral_writeDecimal`). So the text of a finite binary64 number is read as that number, bit for
bit (`exists_of_write?`, `Numeral.read?`).
-/

set_option autoImplicit false

namespace Listing.Number

variable {ds fs cs : List Char} {n : Nat} {d m : Decimal} {l : Layout}

/-! ## Runs of digits -/

/-- Digits that do not begin with a zero, unless it is the only one. -/
structure Leading (ds : List Char) : Prop where
  ne_nil : ds ≠ []
  digits : AllDigits ds
  head : ds.head? = some '0' → ds = ['0']

theorem Leading.ne_zero_cons {c : Char} (h : Leading ds) : ds ≠ '0' :: c :: cs := by
  intro hds
  subst hds
  cases h.head rfl

theorem allDigits_zero : AllDigits ['0'] := allDigits_zeros 1

theorem leading_zero : Leading ['0'] := ⟨by simp, allDigits_zero, fun _ => rfl⟩

theorem head?_toDigits (hn : n ≠ 0) : (Nat.toDigits 10 n).head? ≠ some '0' := by
  induction n using Nat.strongRecOn with
  | ind n ih =>
    by_cases hlt : n < 10
    · have hdigit : ∀ k : Fin 10, k.val ≠ 0 → k.val.digitChar ≠ '0' := by decide
      rw [Nat.toDigits_of_lt_base hlt, List.head?_cons]
      exact fun h => hdigit ⟨n, hlt⟩ hn (Option.some.inj h)
    · have hne : Nat.toDigits 10 (n / 10) ≠ [] := Nat.toDigits_ne_nil
      rw [Nat.toDigits_of_base_le (by decide) (by omega), List.head?_append_of_ne_nil _ hne]
      exact ih (n / 10) (by omega) (by omega)

theorem leading_toDigits (n : Nat) : Leading (Nat.toDigits 10 n) := by
  refine ⟨Nat.toDigits_ne_nil, allDigits_toDigits n, fun h => ?_⟩
  by_cases hn : n = 0
  · rw [hn, Nat.toDigits_zero]
  · exact absurd h (head?_toDigits hn)

/-! ## Decimals as text -/

/-- What follows the leading digits of a number that is not an integer: a fraction or a power. -/
inductive Tail : List Char → Prop
  | fraction {c : Char} {cs : List Char} : c.isDigit = true → Tail ('.' :: c :: cs)
  | power {cs : List Char} : Tail ('e' :: cs)

/-- Leading digits and a tail that denote the decimal. -/
structure Numeral (cs : List Char) (d : Decimal) : Prop where
  parts : ∃ ds fs, cs = ds ++ fs ∧ Leading ds ∧ Tail fs
  value : ∃ m, Magnitude cs m ∧ m.toRat = d.toRat

theorem sign_of_power (e : Int) : Sign (if e < 0 then ['-'] else ['+']) (e < 0) := by
  by_cases he : e < 0
  · rw [if_pos he, decide_eq_true he]
    exact .minus
  · rw [if_neg he, decide_eq_false he]
    exact .plus

/-- One digit, a fraction unless it is empty, and a power. -/
theorem numeral_power {c : Char} {e : Int} (hc : Leading [c]) (hf : AllDigits fs) :
    Numeral ([c] ++ (if fs = [] then [] else '.' :: fs) ++ ['e']
      ++ (if e < 0 then ['-'] else ['+']) ++ Nat.toDigits 10 e.natAbs)
      ⟨ofDigits (c :: fs), e - fs.length⟩ := by
  have hpower := Power.marked (c := 'e') (.inl rfl) (integerLiteral_of_sign (sign_of_power e))
  generalize hp : (if e < 0 then ['-'] else ['+']) ++ Nat.toDigits 10 e.natAbs = power at hpower
  rw [List.append_assoc, hp, List.append_assoc, List.append_assoc, List.singleton_append]
  cases fs with
  | nil =>
    have hm := Magnitude.mk (.whole hc.digits) hc.ne_nil hpower
    exact ⟨⟨[c], _, rfl, hc, .power⟩, _, hm, rfl⟩
  | cons f fs =>
    have hm := Magnitude.mk (.point hc.digits hf) (by simp) hpower
    rw [if_neg (List.cons_ne_nil f fs)]
    rw [List.append_assoc] at hm
    exact ⟨⟨[c], _, rfl, hc, .fraction hf.head⟩, _, hm, rfl⟩

/-- Digits and a fraction. -/
theorem numeral_fraction (hd : Leading ds) (hf : AllDigits fs) (hne : fs ≠ [])
    (hvalue : (⟨ofDigits (ds ++ fs), -fs.length⟩ : Decimal).toRat = d.toRat) :
    Numeral (ds ++ '.' :: fs) d := by
  have hm := Magnitude.mk (.point hd.digits hf) (by simp [hd.ne_nil]) .absent
  rw [List.append_nil, Int.zero_sub] at hm
  obtain ⟨f, fs, rfl⟩ := List.exists_cons_of_ne_nil hne
  exact ⟨⟨ds, _, rfl, hd, .fraction hf.head⟩, _, hm, hvalue⟩

/-- The characters of a written decimal, form by form. -/
theorem toList_writeDecimal (l : Layout) (d : Decimal) : (l.writeDecimal d).toList =
    let ds := Nat.toDigits 10 d.digits
    let power : Int := ds.length + d.exponent - 1
    if power < l.leastPlain ∨ l.endPlain ≤ power then
      ds.take 1 ++ (if ds.tail = [] then [] else '.' :: ds.tail) ++ l.mark.toList
        ++ (if power < 0 then ['-'] else l.plus.toList) ++ Nat.toDigits 10 power.natAbs
    else if power < 0 then ['0'] ++ '.' :: (List.replicate (-power - 1).toNat '0' ++ ds)
    else if 0 ≤ d.exponent then ds ++ List.replicate d.exponent.toNat '0' ++ ['.', '0']
    else ds.take (power + 1).toNat ++ '.' :: ds.drop (power + 1).toNat := by
  unfold Layout.writeDecimal Layout.splitDigits Layout.zeros
  simp only [Nat.toString_eq_ofList_toDigits, String.length_ofList, String.toList_ofList,
    Bool.or_eq_true, decide_eq_true_eq]
  generalize Nat.toDigits 10 d.digits = ds
  generalize (ds.length : Int) + d.exponent - 1 = power
  by_cases hpower : power < l.leastPlain ∨ l.endPlain ≤ power
  · rw [if_pos hpower, if_pos hpower]
    by_cases hds : ds.tail = [] <;> by_cases hneg : power < 0 <;> simp [hds, hneg]
  · rw [if_neg hpower, if_neg hpower]
    by_cases hneg : power < 0
    · simp [hneg]
    · rw [if_neg hneg, if_neg hneg]
      by_cases he : 0 ≤ d.exponent <;> simp [he]

/-! ## The forms -/

section
variable (hds : Leading ds) (hhead : ds.head? ≠ some '0') (hdigits : ofDigits ds = d.digits)
include hds hhead hdigits

omit hhead in
theorem numeral_of_scaled {e : Int} (he : e = ds.length + d.exponent - 1) :
    Numeral (ds.take 1 ++ (if ds.tail = [] then [] else '.' :: ds.tail) ++ ['e']
      ++ (if e < 0 then ['-'] else ['+']) ++ Nat.toDigits 10 e.natAbs) d := by
  obtain ⟨c, cs, rfl⟩ := List.exists_cons_of_ne_nil hds.ne_nil
  have hc : Leading [c] := by
    refine ⟨by simp, fun x hx => hds.digits x (by simp_all), fun h => ?_⟩
    rw [List.head?_cons] at h
    rw [Option.some.inj h]
  have hcs : AllDigits cs := fun x hx => hds.digits x (List.mem_cons_of_mem c hx)
  have h := numeral_power (e := e) hc hcs
  rw [List.length_cons] at he
  rw [hdigits, show e - cs.length = d.exponent by omega] at h
  exact h

omit hhead in
theorem numeral_of_small {n : Nat} (hn : (n : Int) + ds.length = -d.exponent) :
    Numeral (['0'] ++ '.' :: (List.replicate n '0' ++ ds)) d := by
  apply numeral_fraction leading_zero ((allDigits_zeros n).append hds.digits)
  · simp [hds.ne_nil]
  · have hvalue : ofDigits (['0'] ++ (List.replicate n '0' ++ ds)) = d.digits := by
      rw [ofDigits_append, ofDigits_append, ofDigits_zeros, hdigits]
      simp [ofDigits, digitValue]
    have hplaces : -((List.replicate n '0' ++ ds).length : Int) = d.exponent := by
      rw [List.length_append, List.length_replicate]
      omega
    rw [hvalue, hplaces]

theorem numeral_of_whole (he : 0 ≤ d.exponent) :
    Numeral (ds ++ List.replicate d.exponent.toNat '0' ++ ['.', '0']) d := by
  obtain ⟨n, hn⟩ := Int.eq_ofNat_of_zero_le he
  rw [hn, Int.toNat_natCast]
  have hwhole : Leading (ds ++ List.replicate n '0') := by
    refine ⟨by simp [hds.ne_nil], hds.digits.append (allDigits_zeros n), fun h => ?_⟩
    rw [List.head?_append_of_ne_nil _ hds.ne_nil] at h
    exact absurd h hhead
  apply numeral_fraction hwhole allDigits_zero (by simp)
  rw [ofDigits_append, ofDigits_append, ofDigits_zeros, hdigits, Decimal.toRat, Decimal.toRat, hn]
  simp [ofDigits, digitValue]

theorem numeral_of_point {n : Nat} (hn : 0 < n) (hlt : n < ds.length)
    (he : (n : Int) = ds.length + d.exponent) :
    Numeral (ds.take n ++ '.' :: ds.drop n) d := by
  have hwhole : Leading (ds.take n) := by
    refine ⟨fun h => ?_, fun c hc => hds.digits c (List.mem_of_mem_take hc), fun h => ?_⟩
    · have := congrArg List.length h
      rw [List.length_take, List.length_nil] at this
      omega
    · rw [List.head?_take, if_neg (by omega)] at h
      exact absurd h hhead
  apply numeral_fraction hwhole fun c hc => hds.digits c (List.mem_of_mem_drop hc)
  · intro h
    have := congrArg List.length h
    rw [List.length_drop, List.length_nil] at this
    omega
  · have hplaces : -((ds.drop n).length : Int) = d.exponent := by
      rw [List.length_drop]
      omega
    rw [List.take_append_drop, hdigits, hplaces]

end

/-- Any decimal but zero, in whichever form, denotes itself. -/
theorem numeral_writeDecimal (hmark : l.mark = "e") (hplus : l.plus = "+") (hd : d.digits ≠ 0) :
    Numeral (l.writeDecimal d).toList d := by
  have hds := leading_toDigits d.digits
  have hhead := head?_toDigits hd
  have hdigits := ofDigits_toDigits d.digits
  rw [toList_writeDecimal, hmark, hplus]
  dsimp only
  generalize Nat.toDigits 10 d.digits = ds at *
  generalize hpower : (ds.length : Int) + d.exponent - 1 = power
  by_cases hscale : power < l.leastPlain ∨ l.endPlain ≤ power
  · rw [if_pos hscale]
    exact numeral_of_scaled hds hdigits hpower.symm
  · rw [if_neg hscale]
    by_cases hneg : power < 0
    · rw [if_pos hneg]
      exact numeral_of_small hds hdigits (by omega)
    · rw [if_neg hneg]
      by_cases he : 0 ≤ d.exponent
      · rw [if_pos he]
        exact numeral_of_whole hds hhead hdigits he
      · rw [if_neg he]
        exact numeral_of_point hds hhead hdigits (by omega) (by omega) (by omega)

/-! ## Binary64 numbers as text -/

/-- A numeral is read as the number whose rank is nearest to the decimal. -/
theorem Numeral.read? {sign : List Char} {negative : Bool} {x : Binary64} (h : Numeral cs d)
    (hs : Sign sign negative) (hx : x.negative = negative) (hfin : x.isFinite = true)
    (hnear : Binary64.Nearest d.toRat x.rank) :
    Binary64.read? (String.ofList (sign ++ cs)) = some x := by
  obtain ⟨m, hm, hvalue⟩ := h.value
  have hliteral : Literal.read? (String.ofList (sign ++ cs)) = some (.decimal negative m) := by
    rw [Literal.read?_eq_decimal_iff, String.toList_ofList]
    exact .mk hs hm
  have hrank : x.rank = Binary64.rankOf m := by
    rw [← hvalue] at hnear
    exact ((Binary64.nearest_iff_eq_rankOf (by simpa [Binary64.isFinite] using hfin)).1 hnear).2
  obtain ⟨b, r, hr⟩ := x
  obtain rfl : b = negative := hx
  obtain rfl : r = Binary64.rankOf m := hrank
  rw [Binary64.read?, hliteral]
  rfl

/-- What is written for a number: a sign if it is negative, and a numeral of a decimal to which the
number is nearest. -/
theorem exists_of_write? {x : Binary64} {s : String} (hmark : l.mark = "e") (hplus : l.plus = "+")
    (h : l.write? x = some s) : x.isFinite = true ∧ ∃ cs d, Numeral cs d ∧
      Binary64.Nearest d.toRat x.rank ∧ s.toList = minus x.negative ++ cs := by
  have hsign : (if x.negative then "-" else "" : String).toList = minus x.negative := by
    cases x.negative <;> rfl
  unfold Layout.write? at h
  dsimp only at h
  by_cases hzero : x.rank = 0
  · rw [if_pos hzero] at h
    obtain rfl := Option.some.inj h
    have hnumeral : Numeral ['0', '.', '0'] ⟨0, -1⟩ :=
      numeral_fraction leading_zero allDigits_zero (by simp) rfl
    refine ⟨by simp [Binary64.isFinite, hzero, infinityRank, blockSize], _, _, hnumeral, ?_, ?_⟩
    · have hvalue : (⟨0, -1⟩ : Decimal).toRat = Binary64.magnitude 0 := by
        rw [Binary64.magnitude_zero, Decimal.toRat]
        simp
      rw [hvalue, hzero]
      exact Binary64.nearest_magnitude 0
    · rw [String.toList_append, hsign]
      rfl
  · rw [if_neg hzero] at h
    by_cases hfin : x.isFinite = true
    · rw [if_pos hfin] at h
      obtain rfl := Option.some.inj h
      have hpos : 0 < x.rank := Nat.pos_of_ne_zero hzero
      refine ⟨hfin, _, _, numeral_writeDecimal hmark hplus (Shortest.digits_decimal_ne_zero hpos),
        Shortest.nearest_decimal hpos, ?_⟩
      rw [String.toList_append, hsign]
    · rw [if_neg hfin] at h
      cases h

/-- Just the finite numbers are written. -/
theorem isSome_write? (l : Layout) (x : Binary64) : (l.write? x).isSome = x.isFinite := by
  unfold Layout.write?
  by_cases hzero : x.rank = 0
  · simp [hzero, Binary64.isFinite, infinityRank, blockSize]
  · by_cases hfin : x.isFinite = true <;> simp [hzero, hfin]

end Listing.Number
