import Listing.Catalog.Like
import Listing.Proofs.Literal

/-!
# Patterns around a value

A value of letters and digits holds no wildcard, so a text is like the pattern `%value%` exactly if
the value stands somewhere in it up to ASCII case, before the first NUL of the text
(`like_around_iff`).
-/

set_option autoImplicit false

namespace Listing.Like

variable {v : String} {ps cs text : List Char}

/-- `v` stands somewhere in the text up to ASCII case, before its first NUL. -/
def Within (v text : String) : Prop :=
  ∃ pre mid post, visible text = pre ++ mid ++ post ∧
    mid.map Char.toLower = v.toList.map Char.toLower

/-- A character that stands for itself in a pattern. -/
def IsLiteral (c : Char) : Prop := c ≠ '%' ∧ c ≠ '_'

theorem mem_suffixes_iff : cs ∈ suffixes text ↔ ∃ pre, text = pre ++ cs := by
  induction text with
  | nil => simp [suffixes, eq_comm]
  | cons c text ih =>
    simp only [suffixes, List.mem_cons, ih]
    constructor
    · rintro (rfl | ⟨pre, rfl⟩)
      · exact ⟨[], rfl⟩
      · exact ⟨c :: pre, rfl⟩
    · intro h
      obtain ⟨_ | ⟨d, pre⟩, h⟩ := h
      · exact .inl h.symm
      · obtain ⟨rfl, htext⟩ := List.cons.inj h
        exact .inr ⟨pre, htext⟩

/-- A percent sign covers any run of characters. -/
theorem covers_percent_iff :
    covers ('%' :: ps) text = true ↔ ∃ pre rest, text = pre ++ rest ∧ covers ps rest = true := by
  simp only [covers, if_true, List.any_eq_true, mem_suffixes_iff]
  constructor
  · intro h
    obtain ⟨rest, ⟨pre, h⟩, hrest⟩ := h
    exact ⟨pre, rest, h, hrest⟩
  · intro h
    obtain ⟨pre, rest, h, hrest⟩ := h
    exact ⟨rest, ⟨pre, h⟩, hrest⟩

theorem covers_percent_nil (text : List Char) : covers ['%'] text = true :=
  covers_percent_iff.2 ⟨text, [], by simp, rfl⟩

theorem covers_cons_iff {c : Char} (hc : IsLiteral c) : covers (c :: ps) text = true ↔
    ∃ d rest, text = d :: rest ∧ d.toLower = c.toLower ∧ covers ps rest = true := by
  cases text with
  | nil => simp [covers, hc.1]
  | cons d rest =>
    simp only [covers, if_neg hc.1, Bool.and_eq_true, Bool.or_eq_true, beq_iff_eq, hc.2, false_or]
    constructor
    · intro h
      obtain ⟨hd, hrest⟩ := h
      exact ⟨d, rest, rfl, hd.symm, hrest⟩
    · intro h
      obtain ⟨d', rest', h, hd, hrest⟩ := h
      obtain ⟨rfl, rfl⟩ := List.cons.inj h
      exact ⟨hd.symm, hrest⟩

/-- Characters without wildcards cover themselves, up to ASCII case. -/
theorem covers_append_iff (hcs : ∀ c ∈ cs, IsLiteral c) : covers (cs ++ ps) text = true ↔
    ∃ mid rest, text = mid ++ rest ∧ mid.map Char.toLower = cs.map Char.toLower ∧
      covers ps rest = true := by
  induction cs generalizing text with
  | nil => simp
  | cons c cs ih =>
    rw [List.cons_append, covers_cons_iff (hcs c (by simp))]
    constructor
    · intro h
      obtain ⟨d, rest, rfl, hd, hrest⟩ := h
      obtain ⟨mid, rest, rfl, hmid, hrest⟩ :=
        (ih fun c hc => hcs c (List.mem_cons_of_mem _ hc)).1 hrest
      exact ⟨d :: mid, rest, rfl, by simp [hd, hmid], hrest⟩
    · intro h
      obtain ⟨mid, rest, rfl, hmid, hrest⟩ := h
      cases mid with
      | nil => simp at hmid
      | cons d mid =>
        obtain ⟨hd, hmid⟩ := List.cons.inj hmid
        exact ⟨d, mid ++ rest, rfl, hd,
          (ih fun c hc => hcs c (List.mem_cons_of_mem _ hc)).2 ⟨mid, rest, rfl, hmid, hrest⟩⟩

theorem isLiteral_of_isLetterOrDigit {c : Char} (h : IsLetterOrDigit c) :
    IsLiteral c ∧ c ≠ '\x00' := by
  refine ⟨⟨?_, ?_⟩, ?_⟩ <;>
  · intro hc
    subst hc
    revert h
    unfold IsLetterOrDigit
    decide

theorem visible_around (hv : ∀ c ∈ v.toList, IsLetterOrDigit c) :
    visible ("%" ++ v ++ "%") = '%' :: (v.toList ++ ['%']) := by
  have hnul : ∀ c ∈ '%' :: (v.toList ++ ['%']), (c != '\x00') = true := by
    intro c hc
    rw [List.mem_cons, List.mem_append, List.mem_singleton] at hc
    rcases hc with rfl | hc | rfl
    · decide
    · exact bne_iff_ne.2 (isLiteral_of_isLetterOrDigit (hv c hc)).2
    · decide
  have htext : ("%" ++ v ++ "%").toList = '%' :: (v.toList ++ ['%']) := by simp
  rw [visible, htext, List.takeWhile_eq_self_iff.2 hnul]

/-- A text is like a value of letters and digits between percent signs iff it has the value in
it. -/
theorem like_around_iff {s : String} (hv : ∀ c ∈ v.toList, IsLetterOrDigit c) :
    like ("%" ++ v ++ "%") s = true ↔ Within v s := by
  have hliteral : ∀ c ∈ v.toList, IsLiteral c := fun c hc =>
    (isLiteral_of_isLetterOrDigit (hv c hc)).1
  rw [like, visible_around hv, covers_percent_iff]
  constructor
  · intro h
    obtain ⟨pre, rest, hs, hrest⟩ := h
    obtain ⟨mid, post, rfl, hmid, -⟩ := (covers_append_iff hliteral).1 hrest
    exact ⟨pre, mid, post, by rw [hs, List.append_assoc], hmid⟩
  · intro h
    obtain ⟨pre, mid, post, hs, hmid⟩ := h
    exact ⟨pre, mid ++ post, by rw [hs, List.append_assoc],
      (covers_append_iff hliteral).2 ⟨mid, post, rfl, hmid, covers_percent_nil post⟩⟩

end Listing.Like
