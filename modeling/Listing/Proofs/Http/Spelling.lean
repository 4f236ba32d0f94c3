import Mathlib.Data.List.TakeWhile
import Listing.Http.Form
import Listing.Proofs.Text.Utf8

/-!
# How pairs may be spelled

A byte of a name or a value may stand for itself, a blank may be a plus sign, and any byte may be a
percent sign with two digits: `Spells` says which bytes such a mixture stands for. `Writes` says
which pairs a query part holds, and decoding gives these pairs (`decode_of_writes`). To encode every
byte with a percent sign is one of the spellings, so what is encoded is read back (`decode_encode`).
-/

set_option autoImplicit false

namespace Listing

open Text

/-! ## Percent encoding -/

namespace Text

variable {a b h l : UInt8} {bs : List UInt8}

theorem percentDecode_cons (ha : a ≠ 0x25) (bs : List UInt8) :
    percentDecode (a :: bs) = a :: percentDecode bs := by
  match bs with
  | [] => rfl
  | [_] => rfl
  | _ :: _ :: _ => rw [percentDecode, if_neg ha]

theorem percentDecode_escape (hb : hexByte? h l = some b) (bs : List UInt8) :
    percentDecode (0x25 :: h :: l :: bs) = b :: percentDecode bs := by
  rw [percentDecode, if_pos rfl, hb]

/-- A percent sign without two digits behind it stands for itself. -/
theorem percentDecode_bare (hbs : ∀ h l rest, bs = h :: l :: rest → hexByte? h l = none) :
    percentDecode (0x25 :: bs) = 0x25 :: percentDecode bs := by
  match bs, hbs with
  | [], _ => rfl
  | [_], _ => rfl
  | h :: l :: rest, hbs => rw [percentDecode, if_pos rfl, hbs h l rest rfl]

theorem hexByte?_hexCode {m n : Nat} (hm : m < 16) (hn : n < 16) :
    hexByte? (hexCode m) (hexCode n) = some (.ofNat (16 * m + n)) := by
  have hcode : ∀ n : Fin 16, Char.ofNat (hexCode n.val).toNat = hexDigit n.val := by decide
  have hm' := hcode ⟨m, hm⟩
  have hn' := hcode ⟨n, hn⟩
  dsimp only at hm' hn'
  rw [hexByte?, hm', hn', hexValue?_hexDigit hm, hexValue?_hexDigit hn]
  rfl

/-- What a percent-encoded byte consists of: a percent sign, digits and small letters. -/
theorem mem_percentEncode (hb : b ∈ percentEncode bs) :
    b = 0x25 ∨ 0x30 ≤ b.toNat ∧ b.toNat ≤ 0x39 ∨ 0x61 ≤ b.toNat ∧ b.toNat ≤ 0x66 := by
  have hcode : ∀ n : Fin 16, 0x30 ≤ (hexCode n.val).toNat ∧ (hexCode n.val).toNat ≤ 0x39 ∨
      0x61 ≤ (hexCode n.val).toNat ∧ (hexCode n.val).toNat ≤ 0x66 := by decide
  obtain ⟨c, -, hc⟩ := List.mem_flatMap.1 hb
  have hlt := c.toNat_lt
  simp only [List.mem_cons, List.not_mem_nil, or_false] at hc
  rcases hc with rfl | rfl | rfl
  · exact .inl rfl
  · exact .inr (hcode ⟨c.toNat / 16, by omega⟩)
  · exact .inr (hcode ⟨c.toNat % 16, by omega⟩)

end Text

namespace Form

/-! ## Spellings -/

/-- The bytes that are read for others: a byte for itself, a plus sign for a blank, a percent sign
with two digits for the byte they denote, a percent sign without them for itself. -/
inductive Spells : List UInt8 → List UInt8 → Prop
  | nil : Spells [] []
  | literal {b : UInt8} {bytes text : List UInt8} : b ≠ 0x25 → b ≠ 0x2B → Spells bytes text →
      Spells (b :: bytes) (b :: text)
  | plus {bytes text : List UInt8} : Spells bytes text → Spells (0x2B :: bytes) (0x20 :: text)
  | escape {h l b : UInt8} {bytes text : List UInt8} : hexByte? h l = some b → Spells bytes text →
      Spells (0x25 :: h :: l :: bytes) (b :: text)
  | bare {bytes text : List UInt8} : (∀ h l rest, bytes = h :: l :: rest → hexByte? h l = none) →
      Spells bytes text → Spells (0x25 :: bytes) (0x25 :: text)

/-- The bytes of a pair: a name and a value with an equals sign between them, or a name alone where
the value is empty. A name has no equals sign in it, and neither has an ampersand. -/
inductive SpellsPair : List UInt8 → String × String → Prop
  | pair {n v : List UInt8} {name value : String} : 0x26 ∉ n → 0x3D ∉ n → 0x26 ∉ v →
      Spells n (Utf8.encode name) → Spells v (Utf8.encode value) →
      SpellsPair (n ++ 0x3D :: v) (name, value)
  | name {n : List UInt8} {name : String} : n ≠ [] → 0x26 ∉ n → 0x3D ∉ n →
      Spells n (Utf8.encode name) → SpellsPair n (name, "")

/-- Stretches of bytes that spell the pairs, with empty ones between them. -/
inductive SpellsPairs : List (List UInt8) → List (String × String) → Prop
  | nil : SpellsPairs [] []
  | empty {parts : List (List UInt8)} {pairs : List (String × String)} : SpellsPairs parts pairs →
      SpellsPairs ([] :: parts) pairs
  | cons {part : List UInt8} {pair : String × String} {parts : List (List UInt8)}
      {pairs : List (String × String)} : SpellsPair part pair → SpellsPairs parts pairs →
      SpellsPairs (part :: parts) (pair :: pairs)

/-- A query part that spells the pairs, with ampersands between them. -/
def Writes (query : String) (pairs : List (String × String)) : Prop :=
  ∃ parts, parts ≠ [] ∧ Utf8.encode query = [0x26].intercalate parts ∧ SpellsPairs parts pairs

/-! ## Decoding -/

/-- A plus sign as a blank. -/
def blank (b : UInt8) : UInt8 := if b = 0x2B then 0x20 else b

theorem blank_of_ne {b : UInt8} (h : b ≠ 0x2B) : blank b = b := if_neg h

theorem decodeText_eq (bytes : List UInt8) :
    decodeText bytes = Utf8.decodeLossy (percentDecode (bytes.map blank)) := rfl

/-- Neither a plus sign nor a blank is a digit. -/
theorem hexByte?_blank (h l : UInt8) : hexByte? (blank h) (blank l) = hexByte? h l := by
  have hdigit : ∀ b : UInt8,
      hexValue? (Char.ofNat (blank b).toNat) = hexValue? (Char.ofNat b.toNat) := by
    intro b
    by_cases hb : b = 0x2B
    · rw [hb]
      rfl
    · rw [blank_of_ne hb]
  rw [hexByte?, hexByte?, hdigit, hdigit]

theorem percentDecode_of_spells {bytes text : List UInt8} (h : Spells bytes text) :
    percentDecode (bytes.map blank) = text := by
  induction h with
  | nil => rfl
  | literal hpercent hplus _ ih =>
    rw [List.map_cons, blank_of_ne hplus, percentDecode_cons hpercent, ih]
  | plus _ ih =>
    rw [List.map_cons, show blank 0x2B = 0x20 from rfl, percentDecode_cons (by decide), ih]
  | escape hbyte _ ih =>
    rw [List.map_cons, List.map_cons, List.map_cons, blank_of_ne (by decide),
      percentDecode_escape (by rw [hexByte?_blank, hbyte]), ih]
  | @bare bytes text hbare _ ih =>
    rw [List.map_cons, blank_of_ne (by decide), percentDecode_bare, ih]
    intro h l rest hmap
    obtain ⟨h', bytes', rfl, rfl, hmap'⟩ := List.map_eq_cons_iff.1 hmap
    obtain ⟨l', rest', rfl, rfl, -⟩ := List.map_eq_cons_iff.1 hmap'
    rw [hexByte?_blank, hbare h' l' rest' rfl]

theorem decodeText_of_spells {bytes : List UInt8} {s : String} (h : Spells bytes (Utf8.encode s)) :
    decodeText bytes = s := by
  rw [decodeText_eq, percentDecode_of_spells h, Utf8.decodeLossy_encode]

theorem decodePair_of_spells {bytes : List UInt8} {pair : String × String}
    (h : SpellsPair bytes pair) : decodePair bytes = pair := by
  have hname : ∀ n : List UInt8, 0x3D ∉ n → ∀ b ∈ n, (b != 0x3D) = true := fun n hn b hb =>
    bne_iff_ne.2 fun heq => hn (heq ▸ hb)
  cases h with
  | @pair n v name value _ hn _ hspells hspells' =>
    rw [decodePair, List.takeWhile_append_of_pos (hname n hn),
      List.dropWhile_append_of_pos (hname n hn)]
    simp [decodeText_of_spells hspells, decodeText_of_spells hspells']
  | name _ _ hn hspells =>
    have htake : bytes.takeWhile (· != 0x3D) = bytes :=
      List.takeWhile_eq_self_iff.2 (hname bytes hn)
    have hdrop : bytes.dropWhile (· != 0x3D) = [] := List.dropWhile_eq_nil_iff.2 (hname bytes hn)
    rw [decodePair, htake, hdrop, decodeText_of_spells hspells]
    rfl

theorem ampersand_not_mem_of_spells {bytes : List UInt8} {pair : String × String}
    (h : SpellsPair bytes pair) : 0x26 ∉ bytes := by
  cases h with
  | pair hn _ hv => simp [hn, hv]
  | name _ hn => exact hn

theorem ne_nil_of_spells {bytes : List UInt8} {pair : String × String} (h : SpellsPair bytes pair) :
    bytes ≠ [] := by
  cases h with
  | pair => simp
  | name hn => exact hn

theorem decodeParts_of_spells {parts : List (List UInt8)} {pairs : List (String × String)}
    (h : SpellsPairs parts pairs) : (parts.filter (· ≠ [])).map decodePair = pairs := by
  induction h with
  | nil => rfl
  | empty _ ih => simpa using ih
  | cons hpair _ ih => simpa [ne_nil_of_spells hpair, decodePair_of_spells hpair] using ih

theorem ampersand_not_mem_parts {parts : List (List UInt8)} {pairs : List (String × String)}
    (h : SpellsPairs parts pairs) : ∀ part ∈ parts, 0x26 ∉ part := by
  induction h with
  | nil => simp
  | empty _ ih => exact List.forall_mem_cons.2 ⟨List.not_mem_nil, ih⟩
  | cons hpair _ ih => exact List.forall_mem_cons.2 ⟨ampersand_not_mem_of_spells hpair, ih⟩

/-- However a query part spells its pairs, they are read. -/
theorem decode_of_writes {query : String} {pairs : List (String × String)}
    (h : Writes query pairs) : decode query = pairs := by
  obtain ⟨parts, hne, hquery, hspells⟩ := h
  rw [decode, hquery, List.splitOn_intercalate 0x26 (ampersand_not_mem_parts hspells) hne]
  exact decodeParts_of_spells hspells

/-! ## Encoding -/

theorem spells_percentEncode (bytes : List UInt8) : Spells (percentEncode bytes) bytes := by
  induction bytes with
  | nil => exact .nil
  | cons b bytes ih =>
    have hlt := b.toNat_lt
    have hbyte : hexByte? (hexCode (b.toNat / 16)) (hexCode (b.toNat % 16)) = some b := by
      rw [hexByte?_hexCode (by omega) (by omega), Nat.div_add_mod, UInt8.ofNat_toNat]
    exact .escape hbyte ih

/-- Without the two signs of the encoding bytes spell themselves. -/
theorem spells_self {bytes : List UInt8} (hpercent : 0x25 ∉ bytes) (hplus : 0x2B ∉ bytes) :
    Spells bytes bytes := by
  induction bytes with
  | nil => exact .nil
  | cons b bytes ih =>
    rw [List.mem_cons, not_or] at hpercent hplus
    exact .literal (Ne.symm hpercent.1) (Ne.symm hplus.1) (ih hpercent.2 hplus.2)

theorem encode_encodeText (s : String) :
    Utf8.encode (encodeText s) = percentEncode (Utf8.encode s) := by
  refine Utf8.encode_decodeLossy_of_ascii fun b hb => ?_
  rcases mem_percentEncode hb with rfl | hb | hb
  · decide
  · omega
  · omega

theorem percentEncode_not_mem {b : UInt8} (hb : b = 0x23 ∨ b = 0x26 ∨ b = 0x3D)
    (bytes : List UInt8) : b ∉ percentEncode bytes := by
  intro hmem
  have := mem_percentEncode hmem
  rcases hb with rfl | rfl | rfl <;> revert this <;> decide

/-- A name in any spelling with an encoded value behind it. -/
theorem spellsPair_value {n name : String} (hamp : 0x26 ∉ Utf8.encode n)
    (heq : 0x3D ∉ Utf8.encode n) (hn : Spells (Utf8.encode n) (Utf8.encode name))
    (value : String) :
    SpellsPair (Utf8.encode (n ++ "=" ++ encodeText value)) (name, value) := by
  have hbytes : Utf8.encode (n ++ "=" ++ encodeText value)
      = Utf8.encode n ++ 0x3D :: percentEncode (Utf8.encode value) := by
    rw [Utf8.encode_append, Utf8.encode_append, encode_encodeText, List.append_assoc]
    rfl
  rw [hbytes]
  exact .pair hamp heq (percentEncode_not_mem (by decide) _) hn (spells_percentEncode _)

theorem spellsPair_encode (name value : String) :
    SpellsPair (Utf8.encode (encodeText name ++ "=" ++ encodeText value)) (name, value) := by
  refine spellsPair_value ?_ ?_ ?_ value <;> rw [encode_encodeText]
  · exact percentEncode_not_mem (by decide) _
  · exact percentEncode_not_mem (by decide) _
  · exact spells_percentEncode _

/-- The encoder writes its pairs. -/
theorem writes_encode (pairs : List (String × String)) : Writes (encode pairs) pairs := by
  cases pairs with
  | nil => exact ⟨[[]], by simp, rfl, .empty .nil⟩
  | cons pair pairs =>
    refine ⟨_, by simp, Utf8.encode_intercalate _ _, ?_⟩
    generalize pair :: pairs = pairs
    induction pairs with
    | nil => exact .nil
    | cons pair pairs ih => exact .cons (spellsPair_encode pair.1 pair.2) ih

theorem decode_encode (pairs : List (String × String)) : decode (encode pairs) = pairs :=
  decode_of_writes (writes_encode pairs)

/-! ## Requests -/

/-- A query part that asks for a list. -/
def asking (r : ListRequest) : String :=
  "filterBy=" ++ encodeText r.filterBy ++ "&sortBy=" ++ encodeText r.sortBy

theorem asking_eq (r : ListRequest) : asking r = "&".intercalate
    ["filterBy" ++ "=" ++ encodeText r.filterBy, "sortBy" ++ "=" ++ encodeText r.sortBy] := by
  rw [← String.toList_inj]
  simp [asking, String.intercalate_cons_cons]

theorem writes_asking (r : ListRequest) :
    Writes (asking r) [("filterBy", r.filterBy), ("sortBy", r.sortBy)] := by
  refine ⟨_, by simp, (congrArg Utf8.encode (asking_eq r)).trans (Utf8.encode_intercalate _ _), ?_⟩
  refine .cons ?_ (.cons ?_ .nil)
  · exact spellsPair_value (by decide) (by decide) (spells_self (by decide) (by decide)) _
  · exact spellsPair_value (by decide) (by decide) (spells_self (by decide) (by decide)) _

/-- No hash sign ends it early. -/
theorem hash_not_mem_asking (r : ListRequest) : '#' ∉ (asking r).toList := by
  intro hmem
  have hbyte : (0x23 : UInt8) ∈ Utf8.encode (asking r) := Utf8.mem_encode hmem (by decide)
  rw [asking, Utf8.encode_append, Utf8.encode_append, Utf8.encode_append, encode_encodeText,
    encode_encodeText] at hbyte
  simp only [List.mem_append, percentEncode_not_mem (.inl rfl), or_false] at hbyte
  revert hbyte
  decide

end Form

end Listing
