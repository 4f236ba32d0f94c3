import Listing.Proofs.Acceptance
import Listing.Proofs.Declaration.Derive
import Listing.Proofs.Text.SnakeCase

/-!
# The entity of an item that gives none

Without an entity of its own an item is named after itself, in snake case. For an ASCII identifier
this is made of small letters, digits and underscores, and it is not empty and does not begin with a
digit just if a letter comes first behind the underscores in front of the identifier. The raw
spelling of an identifier keeps its mark, which is none of these characters
(`derive_defaultEntity`).
-/

set_option autoImplicit false

namespace Listing

open Text SnakeCase

/-- A letter or an underscore, and then letters, digits and underscores, all of them ASCII. The
words that a declaration may not be named by are among them. -/
def IsIdentifier (name : String) : Prop := ∃ c cs, name.toList = c :: cs ∧
  (c.isAlpha = true ∨ c = '_') ∧ ∀ d ∈ cs, d.isAlphanum = true ∨ d = '_'

/-- The first character of a name that is no underscore is a letter. -/
def BeginsWithLetter (name : String) : Prop :=
  ∃ c, name.toList.find? (· ≠ '_') = some c ∧ c.isAlpha = true

/-- A small letter, a digit or an underscore. -/
def IsTableChar (c : Char) : Prop := c.isLower = true ∨ c.isDigit = true ∨ c = '_'

/-- A text of small letters, digits and underscores that is not empty and does not begin with a
digit. A word that a statement keeps for itself, such as `order`, may be one. -/
structure IsTableName (entity : String) : Prop where
  ne_empty : entity ≠ ""
  chars : ∀ c ∈ entity.toList, IsTableChar c
  head : ∀ c, entity.toList.head? = some c → c.isDigit = false

variable {c : Char} {name : String}

/-! ## Characters of identifiers -/

theorem isAlphanum_or_of_mem (h : IsIdentifier name) (hc : c ∈ name.toList) :
    c.isAlphanum = true ∨ c = '_' := by
  obtain ⟨d, ds, hname, hd, hds⟩ := h
  rw [hname] at hc
  rcases List.mem_cons.1 hc with rfl | hc
  · exact hd.imp_left fun h => by simp [Char.isAlphanum, h]
  · exact hds c hc

theorem isLower_toLower (h : c.isAlpha = true) : c.toLower.isLower = true := by
  by_cases hu : c.isUpper = true
  · have hbounds := isUpper_iff_toNat.1 hu
    rw [isLower_iff_toNat, toNat_toLower hu]
    omega
  · rw [Char.toLower_eq_of_not_isUpper hu]
    simpa [Char.isAlpha, hu] using h

theorem ascii_of_isAlphanum (h : c.isAlphanum = true) : c.toNat < 128 := by
  rw [Char.isAlphanum, Bool.or_eq_true, Char.isAlpha, Bool.or_eq_true, isUpper_iff_toNat,
    isLower_iff_toNat, isDigit_iff_toNat] at h
  omega

theorem IsIdentifier.ascii (h : IsIdentifier name) : ∀ c ∈ name.toList, c.toNat < 128 := by
  intro c hc
  rcases isAlphanum_or_of_mem h hc with hc | rfl
  · exact ascii_of_isAlphanum hc
  · decide

theorem ascii_raw (h : IsIdentifier name) : ∀ c ∈ ("r#" ++ name).toList, c.toNat < 128 := by
  rw [String.toList_append, List.forall_mem_append]
  refine ⟨?_, h.ascii⟩
  simp

/-! ## Identifiers in snake case -/

theorem isTableChar_toLower (h : c.isAlphanum = true) : IsTableChar c.toLower := by
  rw [Char.isAlphanum, Bool.or_eq_true] at h
  rcases h with h | h
  · exact .inl (isLower_toLower h)
  · exact .inr (.inl (by rwa [toLower_of_isDigit h]))

theorem isTableChar_of_mem_snakeCase (h : IsIdentifier name) (hc : c ∈ (snakeCase name).toList) :
    IsTableChar c := by
  rcases mem_snakeCase h.ascii hc with rfl | ⟨d, hd, hne, rfl⟩
  · exact .inr (.inr rfl)
  · exact isTableChar_toLower ((isAlphanum_or_of_mem h hd).resolve_right hne)

theorem isDigit_toLower_of_isAlpha (h : c.isAlpha = true) : c.toLower.isDigit = false := by
  have hlower := isLower_iff_toNat.1 (isLower_toLower h)
  rw [Bool.eq_false_iff, ne_eq, isDigit_iff_toNat]
  omega

theorem isTableName_snakeCase_iff (h : IsIdentifier name) :
    IsTableName (snakeCase name) ↔ BeginsWithLetter name := by
  have hhead := head?_snakeCase h.ascii
  constructor
  · intro ht
    cases hfind : name.toList.find? (· ≠ '_') with
    | none =>
      rw [hfind, Option.map_none, List.head?_eq_none_iff, String.toList_eq_nil_iff] at hhead
      exact absurd hhead ht.ne_empty
    | some c =>
      rw [hfind, Option.map_some] at hhead
      have hne : c ≠ '_' :=
        of_decide_eq_true (List.find?_some (p := fun c => decide (c ≠ '_')) hfind)
      have halnum := (isAlphanum_or_of_mem h (List.mem_of_find?_eq_some hfind)).resolve_right hne
      rw [Char.isAlphanum, Bool.or_eq_true] at halnum
      refine ⟨c, hfind, halnum.resolve_right fun hdigit => ?_⟩
      have := ht.head _ hhead
      rw [toLower_of_isDigit hdigit, hdigit] at this
      cases this
  · rintro ⟨c, hfind, halpha⟩
    rw [hfind, Option.map_some] at hhead
    refine ⟨?_, fun d hd => isTableChar_of_mem_snakeCase h hd, fun d hd => ?_⟩
    · intro hempty
      rw [hempty] at hhead
      cases hhead
    · rw [hhead] at hd
      obtain rfl := Option.some.inj hd
      exact isDigit_toLower_of_isAlpha halpha

/-- The mark of a raw name is kept in snake case. -/
theorem hash_mem_snakeCase (h : IsIdentifier name) : '#' ∈ (snakeCase ("r#" ++ name)).toList :=
  toLower_mem_snakeCase (c := '#') (ascii_raw h) (by simp) (by decide)

theorem not_isTableChar_hash : ¬ IsTableChar '#' := by
  unfold IsTableChar
  decide

namespace Item

variable {item : Item} {d : Derived}

theorem entity_of_derive (hgiven : Setting.given "entity" (settings item.attributes) = [])
    (h : item.derive = .ok d) : d.entity = snakeCase item.name := by
  rw [derive_eq] at h
  rw [← (checked_eq_ok_iff.1 h).2, described, hgiven]
  rfl

/-- Under another name the same fields are derived. -/
theorem derive_renamed (hgiven : Setting.given "entity" (settings item.attributes) = [])
    (h : item.derive = .ok d) (name : String) :
    derive { item with name := name } = .ok ⟨snakeCase name, d.fields⟩ := by
  rw [derive_eq] at h ⊢
  obtain ⟨hfaults, rfl⟩ := checked_eq_ok_iff.1 h
  refine checked_eq_ok_iff.2 ⟨hfaults, ?_⟩
  simp only [described, hgiven]
  rfl

/-- The entity of an item that is named by an identifier and gives no entity. It is made of small
letters, digits and underscores, and has the form of a name just if a letter comes first behind the
underscores of the identifier. The same item under the raw spelling of its name has another entity,
which is not of that form. -/
theorem derive_defaultEntity (hname : IsIdentifier item.name)
    (hgiven : Setting.given "entity" (settings item.attributes) = [])
    (hderive : item.derive = .ok d) :
    (∀ c ∈ d.entity.toList, IsTableChar c) ∧ (IsTableName d.entity ↔ BeginsWithLetter item.name) ∧
    ∃ raw, derive { item with name := "r#" ++ item.name } = .ok raw ∧
      raw.entity ≠ d.entity ∧ ¬ IsTableName raw.entity := by
  rw [entity_of_derive hgiven hderive]
  have hchars : ∀ c ∈ (snakeCase item.name).toList, IsTableChar c := fun c hc =>
    isTableChar_of_mem_snakeCase hname hc
  refine ⟨hchars, isTableName_snakeCase_iff hname, _, derive_renamed hgiven hderive _, ?_,
    fun ht => ?_⟩
  · intro heq
    exact not_isTableChar_hash (hchars '#' (heq ▸ hash_mem_snakeCase hname))
  · exact not_isTableChar_hash (ht.chars '#' (hash_mem_snakeCase hname))

/-- An item with one field and no settings, of a name. -/
def named (name : String) : Item := ⟨name, "", [], .named [⟨"id", .path ["i32"] [], []⟩]⟩

theorem derive_defaultEntity_server :
    (named "_HTTPServer2").derive = .ok ⟨"http_server_2", [⟨"id", .integer⟩]⟩ ∧
    IsTableName "http_server_2" := by
  have h : (named "_HTTPServer2").derive = .ok ⟨"http_server_2", [⟨"id", .integer⟩]⟩ := by
    decide +kernel
  have hname : IsIdentifier "_HTTPServer2" :=
    ⟨'_', "HTTPServer2".toList, by simp, .inr rfl, by simp⟩
  exact ⟨h, (derive_defaultEntity hname rfl h).2.1.2 ⟨'H', by decide, by decide⟩⟩

/-- The raw spelling of a word that is reserved gives an entity with the mark in it; of underscores
alone nothing is left, and of a digit behind an underscore the digit. -/
theorem entity_names_no_table :
    (named "r#type").derive = .ok ⟨"r#type", [⟨"id", .integer⟩]⟩ ∧ ¬ IsTableName "r#type" ∧
    (named "__").derive = .ok ⟨"", [⟨"id", .integer⟩]⟩ ∧ ¬ IsTableName "" ∧
    (named "_1").derive = .ok ⟨"1", [⟨"id", .integer⟩]⟩ ∧ ¬ IsTableName "1" := by
  refine ⟨by decide +kernel, fun h => ?_, by decide +kernel, fun h => ?_, by decide +kernel,
    fun h => ?_⟩
  · exact not_isTableChar_hash (h.chars '#' (by decide))
  · exact h.ne_empty rfl
  · exact absurd (h.head '1' (by decide)) (by decide)

end Item

end Listing
