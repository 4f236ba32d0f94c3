import Listing.Text.Utf8

/-!
# The bytes of a text read back

Reading the UTF-8 bytes of a character gives the character, whatever follows (`scan_encodeChar`). So
the bytes of a text are read as the text, strictly or not (`decodeLossy_encode`). Conversely a
character is only read from its own bytes (`eq_append_of_scan`), so what is read strictly are the
bytes of texts and no others (`decode?_eq_some_iff`).
-/

set_option autoImplicit false

namespace Listing.Text.Utf8

variable {b : UInt8} {bs : List UInt8} {more bits low high : Nat}

/-! ## Single bytes -/

theorem scan_cons (p : Pending) (b : UInt8) (bs : List UInt8) :
    scan p (b :: bs) = (step p b).1 ++ scan (step p b).2 bs := by
  cases p <;> rfl

theorem scan_ascii (h : b.toNat < 0x80) (bs : List UInt8) :
    scan .idle (b :: bs) = some (Char.ofNat b.toNat) :: scan .idle bs := by
  rw [scan_cons, step, start, if_pos h]
  rfl

theorem scan_lead (h : 0x80 ≤ b.toNat) (hl : lead? b = some ⟨more, bits, low, high⟩)
    (bs : List UInt8) :
    scan .idle (b :: bs) = scan (.begun more bits low high) bs := by
  rw [scan_cons, step, start, if_neg (Nat.not_lt.2 h), hl]
  rfl

theorem scan_invalid (h : 0x80 ≤ b.toNat) (hl : lead? b = none) (bs : List UInt8) :
    scan .idle (b :: bs) = none :: scan .idle bs := by
  rw [scan_cons, step, start, if_neg (Nat.not_lt.2 h), hl]
  rfl

/-- A byte in the range asked for that is not the last of its character. -/
theorem scan_more (h : low ≤ b.toNat ∧ b.toNat ≤ high) (bs : List UInt8) :
    scan (.begun (more + 2) bits low high) (b :: bs)
      = scan (.begun (more + 1) (bits * 64 + (b.toNat - 0x80)) 0x80 0xBF) bs := by
  have hmore : ¬ more + 2 ≤ 1 := by omega
  rw [scan_cons, step]
  simp only [if_pos h, if_neg hmore]
  rfl

theorem scan_last (h : low ≤ b.toNat ∧ b.toNat ≤ high) (bs : List UInt8) :
    scan (.begun 1 bits low high) (b :: bs)
      = some (Char.ofNat (bits * 64 + (b.toNat - 0x80))) :: scan .idle bs := by
  rw [scan_cons, step]
  simp only [if_pos h, if_pos (Nat.le_refl 1)]
  rfl

/-! ## Lead bytes -/

theorem lead?_two (h : 0xC2 ≤ b.toNat ∧ b.toNat ≤ 0xDF) :
    lead? b = some ⟨1, b.toNat - 0xC0, 0x80, 0xBF⟩ := by
  rw [lead?, if_pos h]

/-- Of the characters of three bytes those that begin with `E0` would be overlong, and those that
begin with `ED` surrogates, without the narrower range. -/
theorem lead?_three (h : 0xE0 ≤ b.toNat ∧ b.toNat ≤ 0xEF) :
    ∃ low high, lead? b = some ⟨2, b.toNat - 0xE0, low, high⟩ ∧ ∀ m, 0x80 ≤ m → m ≤ 0xBF →
      (b.toNat = 0xE0 → 0xA0 ≤ m) → (b.toNat = 0xED → m ≤ 0x9F) → low ≤ m ∧ m ≤ high := by
  rw [lead?, if_neg (by omega)]
  by_cases hE0 : b.toNat = 0xE0
  · refine ⟨0xA0, 0xBF, by simp [hE0], fun m _ hm hlow _ => ⟨hlow hE0, hm⟩⟩
  · rw [if_neg hE0]
    by_cases hED : b.toNat = 0xED
    · refine ⟨0x80, 0x9F, by simp [hED], fun m hm _ _ hhigh => ⟨hm, hhigh hED⟩⟩
    · rw [if_neg hED, if_pos (by omega)]
      exact ⟨0x80, 0xBF, rfl, fun m hm hm' _ _ => ⟨hm, hm'⟩⟩

/-- Of the characters of four bytes those that begin with `F0` would be overlong, and those that
begin with `F4` too large, without the narrower range. -/
theorem lead?_four (h : 0xF0 ≤ b.toNat ∧ b.toNat ≤ 0xF4) :
    ∃ low high, lead? b = some ⟨3, b.toNat - 0xF0, low, high⟩ ∧ ∀ m, 0x80 ≤ m → m ≤ 0xBF →
      (b.toNat = 0xF0 → 0x90 ≤ m) → (b.toNat = 0xF4 → m ≤ 0x8F) → low ≤ m ∧ m ≤ high := by
  rw [lead?, if_neg (by omega), if_neg (by omega), if_neg (by omega), if_neg (by omega)]
  by_cases hF0 : b.toNat = 0xF0
  · refine ⟨0x90, 0xBF, by simp [hF0], fun m _ hm hlow _ => ⟨hlow hF0, hm⟩⟩
  · rw [if_neg hF0]
    by_cases hF4 : b.toNat = 0xF4
    · refine ⟨0x80, 0x8F, by simp [hF4], fun m hm _ _ hhigh => ⟨hm, hhigh hF4⟩⟩
    · rw [if_neg hF4, if_pos (by omega)]
      exact ⟨0x80, 0xBF, rfl, fun m hm hm' _ _ => ⟨hm, hm'⟩⟩

/-! ## Characters -/

theorem toNat_ofNat {n : Nat} (h : n < 256) : (UInt8.ofNat n).toNat = n :=
  UInt8.toNat_ofNat_of_lt' h

/-- The bytes of a character are read as the character, whatever follows. -/
theorem scan_encodeChar (c : Char) (bs : List UInt8) :
    scan .idle (String.utf8EncodeChar c ++ bs) = some c :: scan .idle bs := by
  have hofNat : ∀ n, n = c.val.toNat → some (Char.ofNat n) = some c := by
    rintro n rfl
    exact congrArg some (Char.ofNat_toNat c)
  have hvalid : c.val.toNat < 0xD800 ∨ 0xDFFF < c.val.toNat ∧ c.val.toNat < 0x110000 := c.valid
  rw [String.utf8EncodeChar]
  generalize c.val.toNat = v at hofNat hvalid
  split
  · -- one byte
    rename_i h
    have hb : (UInt8.ofNat v).toNat = v := toNat_ofNat (by omega)
    rw [List.singleton_append, scan_ascii (by omega), hofNat _ hb]
  · split
    · -- two bytes
      rename_i h
      have hb := toNat_ofNat (n := v / 64 % 32 + 192) (by omega)
      have hb' := toNat_ofNat (n := v % 64 + 128) (by omega)
      rw [List.cons_append, List.singleton_append, scan_lead (by omega) (lead?_two (by omega)),
        scan_last (by omega), hofNat _ (by omega)]
    · split
      · -- three bytes
        rename_i h
        have hb := toNat_ofNat (n := v / 4096 % 16 + 224) (by omega)
        have hb' := toNat_ofNat (n := v / 64 % 64 + 128) (by omega)
        have hb'' := toNat_ofNat (n := v % 64 + 128) (by omega)
        obtain ⟨low, high, hlead, hrange⟩ :=
          lead?_three (b := UInt8.ofNat (v / 4096 % 16 + 224)) (by omega)
        have := hrange (v / 64 % 64 + 128) (by omega) (by omega) (by omega) (by omega)
        rw [List.cons_append, List.cons_append, List.singleton_append, scan_lead (by omega) hlead,
          scan_more (by omega), scan_last (by omega), hofNat _ (by omega)]
      · -- four bytes
        have hb := toNat_ofNat (n := v / 262144 % 8 + 240) (by omega)
        have hb' := toNat_ofNat (n := v / 4096 % 64 + 128) (by omega)
        have hb'' := toNat_ofNat (n := v / 64 % 64 + 128) (by omega)
        have hb''' := toNat_ofNat (n := v % 64 + 128) (by omega)
        obtain ⟨low, high, hlead, hrange⟩ :=
          lead?_four (b := UInt8.ofNat (v / 262144 % 8 + 240)) (by omega)
        have := hrange (v / 4096 % 64 + 128) (by omega) (by omega) (by omega) (by omega)
        rw [List.cons_append, List.cons_append, List.cons_append, List.singleton_append,
          scan_lead (by omega) hlead, scan_more (by omega), scan_more (by omega),
          scan_last (by omega), hofNat _ (by omega)]

/-! ## Texts -/

theorem scan_encode (s : String) : scan .idle (encode s) = s.toList.map some := by
  rw [encode]
  induction s.toList with
  | nil => rfl
  | cons c cs ih => rw [List.flatMap_cons, scan_encodeChar, ih, List.map_cons]

/-- The bytes of a text are read as the text. -/
theorem decodeLossy_encode (s : String) : decodeLossy (encode s) = s := by
  rw [decodeLossy, scan_encode, List.map_map]
  simp [Function.comp_def]

theorem encode_append (s t : String) : encode (s ++ t) = encode s ++ encode t := by
  simp [encode]

theorem encode_intercalate (s : String) (texts : List String) :
    encode (s.intercalate texts) = (encode s).intercalate (texts.map encode) := by
  induction texts with
  | nil => simp [encode]
  | cons t texts ih =>
    cases texts with
    | nil => simp
    | cons u texts =>
      rw [String.intercalate_cons_cons, encode_append, encode_append, ih]
      exact List.intercalate_cons_cons.symm

theorem mem_encode {c : Char} {s : String} (hc : c ∈ s.toList) (hb : b ∈ String.utf8EncodeChar c) :
    b ∈ encode s := List.mem_flatMap.2 ⟨c, hc, hb⟩

/-! ## ASCII -/

theorem scan_of_ascii (h : ∀ b ∈ bs, b.toNat < 0x80) :
    scan .idle bs = bs.map fun b => some (Char.ofNat b.toNat) := by
  induction bs with
  | nil => rfl
  | cons b bs ih =>
    obtain ⟨hb, hbs⟩ := List.forall_mem_cons.1 h
    rw [scan_ascii hb, ih hbs, List.map_cons]

theorem toList_decodeLossy_of_ascii (h : ∀ b ∈ bs, b.toNat < 0x80) :
    (decodeLossy bs).toList = bs.map fun b => Char.ofNat b.toNat := by
  rw [decodeLossy, scan_of_ascii h, String.toList_ofList, List.map_map]
  rfl

theorem encodeChar_of_ascii (h : b.toNat < 0x80) :
    String.utf8EncodeChar (Char.ofNat b.toNat) = [b] := by
  have hall : ∀ n : Fin 0x80, String.utf8EncodeChar (Char.ofNat n.val) = [UInt8.ofNat n.val] := by
    decide
  rw [hall ⟨b.toNat, h⟩, UInt8.ofNat_toNat]

/-- ASCII bytes are the bytes of the text they are read as. -/
theorem encode_decodeLossy_of_ascii (h : ∀ b ∈ bs, b.toNat < 0x80) :
    encode (decodeLossy bs) = bs := by
  rw [encode, toList_decodeLossy_of_ascii h]
  induction bs with
  | nil => rfl
  | cons b bs ih =>
    obtain ⟨hb, hbs⟩ := List.forall_mem_cons.1 h
    rw [List.map_cons, List.flatMap_cons, encodeChar_of_ascii hb, ih hbs, List.singleton_append]

/-! ## Only the bytes of texts are read strictly -/

variable {c : Char} {rest : List (Option Char)} {v : Nat} {b₁ b₂ b₃ : UInt8}

theorem toNat_val_ofNat (h : v < 0xD800 ∨ 0xDFFF < v ∧ v < 0x110000) :
    (Char.ofNat v).val.toNat = v := by
  have hvalid : v.isValidChar := h
  rw [Char.ofNat, dif_pos hvalid]
  rfl

theorem ofNat_eq_of_toNat {n : Nat} (h : n = b.toNat) : UInt8.ofNat n = b := by
  subst h
  exact UInt8.ofNat_toNat

theorem encodeChar_two (hb : 0xC2 ≤ b.toNat ∧ b.toNat ≤ 0xDF)
    (h₁ : 0x80 ≤ b₁.toNat ∧ b₁.toNat ≤ 0xBF)
    (hv : v = (b.toNat - 0xC0) * 64 + (b₁.toNat - 0x80)) :
    String.utf8EncodeChar (Char.ofNat v) = [b, b₁] := by
  rw [String.utf8EncodeChar, toNat_val_ofNat (by omega), if_neg (by omega), if_pos (by omega),
    ofNat_eq_of_toNat (by omega : _ = b.toNat), ofNat_eq_of_toNat (by omega : _ = b₁.toNat)]

theorem encodeChar_three (hb : 0xE0 ≤ b.toNat ∧ b.toNat ≤ 0xEF)
    (h₁ : 0x80 ≤ b₁.toNat ∧ b₁.toNat ≤ 0xBF)
    (h₂ : 0x80 ≤ b₂.toNat ∧ b₂.toNat ≤ 0xBF) (hlow : b.toNat = 0xE0 → 0xA0 ≤ b₁.toNat)
    (hhigh : b.toNat = 0xED → b₁.toNat ≤ 0x9F)
    (hv : v = ((b.toNat - 0xE0) * 64 + (b₁.toNat - 0x80)) * 64 + (b₂.toNat - 0x80)) :
    String.utf8EncodeChar (Char.ofNat v) = [b, b₁, b₂] := by
  rw [String.utf8EncodeChar, toNat_val_ofNat (by omega), if_neg (by omega), if_neg (by omega),
    if_pos (by omega), ofNat_eq_of_toNat (by omega : _ = b.toNat),
    ofNat_eq_of_toNat (by omega : _ = b₁.toNat), ofNat_eq_of_toNat (by omega : _ = b₂.toNat)]

theorem encodeChar_four (hb : 0xF0 ≤ b.toNat ∧ b.toNat ≤ 0xF4)
    (h₁ : 0x80 ≤ b₁.toNat ∧ b₁.toNat ≤ 0xBF)
    (h₂ : 0x80 ≤ b₂.toNat ∧ b₂.toNat ≤ 0xBF) (h₃ : 0x80 ≤ b₃.toNat ∧ b₃.toNat ≤ 0xBF)
    (hlow : b.toNat = 0xF0 → 0x90 ≤ b₁.toNat) (hhigh : b.toNat = 0xF4 → b₁.toNat ≤ 0x8F)
    (hv : v = (((b.toNat - 0xF0) * 64 + (b₁.toNat - 0x80)) * 64 + (b₂.toNat - 0x80)) * 64
      + (b₃.toNat - 0x80)) :
    String.utf8EncodeChar (Char.ofNat v) = [b, b₁, b₂, b₃] := by
  rw [String.utf8EncodeChar, toNat_val_ofNat (by omega), if_neg (by omega), if_neg (by omega),
    if_neg (by omega), ofNat_eq_of_toNat (by omega : _ = b.toNat),
    ofNat_eq_of_toNat (by omega : _ = b₁.toNat), ofNat_eq_of_toNat (by omega : _ = b₂.toNat),
    ofNat_eq_of_toNat (by omega : _ = b₃.toNat)]

/-- A character that was begun is read on by a byte in the range asked for, which completes it if it
is the last. -/
theorem exists_of_scan_begun (h : scan (.begun more bits low high) bs = some c :: rest) :
    ∃ b tail, bs = b :: tail ∧ (low ≤ b.toNat ∧ b.toNat ≤ high) ∧
      if more ≤ 1 then c = Char.ofNat (bits * 64 + (b.toNat - 0x80)) ∧ scan .idle tail = rest
      else scan (.begun (more - 1) (bits * 64 + (b.toNat - 0x80)) 0x80 0xBF) tail =
        some c :: rest := by
  cases bs with
  | nil => simp [scan] at h
  | cons b tail =>
    rw [scan_cons, step] at h
    by_cases hb : low ≤ b.toNat ∧ b.toNat ≤ high
    · refine ⟨b, tail, rfl, hb, ?_⟩
      split <;> simp_all
    · simp [hb] at h

/-- What the first byte of a character asks of the second. -/
theorem lead?_cases (h : lead? b = some ⟨more, bits, low, high⟩) :
    (more = 1 ∧ b.toNat - 0xC0 = bits ∧ (0xC2 ≤ b.toNat ∧ b.toNat ≤ 0xDF) ∧
      0x80 ≤ low ∧ high ≤ 0xBF) ∨
    (more = 2 ∧ b.toNat - 0xE0 = bits ∧ (0xE0 ≤ b.toNat ∧ b.toNat ≤ 0xEF) ∧
      0x80 ≤ low ∧ high ≤ 0xBF ∧
      (b.toNat = 0xE0 → 0xA0 ≤ low) ∧ (b.toNat = 0xED → high ≤ 0x9F)) ∨
    (more = 3 ∧ b.toNat - 0xF0 = bits ∧ (0xF0 ≤ b.toNat ∧ b.toNat ≤ 0xF4) ∧
      0x80 ≤ low ∧ high ≤ 0xBF ∧
      (b.toNat = 0xF0 → 0x90 ≤ low) ∧ (b.toNat = 0xF4 → high ≤ 0x8F)) := by
  unfold lead? at h
  dsimp only at h
  split at h
  · cases h; omega
  · split at h
    · cases h; omega
    · split at h
      · cases h; omega
      · split at h
        · cases h; omega
        · split at h
          · cases h; omega
          · split at h
            · cases h; omega
            · split at h
              · cases h; omega
              · cases h

/-- A character is read from its own bytes. -/
theorem eq_append_of_scan (h : scan .idle bs = some c :: rest) :
    ∃ tail, bs = String.utf8EncodeChar c ++ tail ∧ scan .idle tail = rest := by
  cases bs with
  | nil => simp [scan] at h
  | cons b bs =>
    by_cases hascii : b.toNat < 0x80
    · rw [scan_ascii hascii] at h
      cases h
      exact ⟨bs, by rw [encodeChar_of_ascii hascii, List.singleton_append], rfl⟩
    · cases hl : lead? b with
      | none =>
        rw [scan_invalid (Nat.not_lt.1 hascii) hl] at h
        cases h
      | some l =>
        obtain ⟨more, bits, low, high⟩ := l
        rw [scan_lead (Nat.not_lt.1 hascii) hl] at h
        obtain ⟨b₁, bs₁, rfl, h₁, hnext⟩ := exists_of_scan_begun h
        rcases lead?_cases hl with ⟨rfl, rfl, hb, hrange⟩ | ⟨rfl, rfl, hb, hrange⟩ |
          ⟨rfl, rfl, hb, hrange⟩
        · -- two bytes
          rw [if_pos (Nat.le_refl 1)] at hnext
          rw [hnext.1, encodeChar_two hb (by omega) rfl]
          exact ⟨bs₁, rfl, hnext.2⟩
        · -- three bytes
          rw [if_neg (by decide)] at hnext
          obtain ⟨b₂, bs₂, rfl, h₂, hnext⟩ := exists_of_scan_begun hnext
          rw [if_pos (Nat.le_refl 1)] at hnext
          rw [hnext.1, encodeChar_three hb (by omega) h₂ (by omega) (by omega) rfl]
          exact ⟨bs₂, rfl, hnext.2⟩
        · -- four bytes
          rw [if_neg (by decide)] at hnext
          obtain ⟨b₂, bs₂, rfl, h₂, hnext⟩ := exists_of_scan_begun hnext
          rw [if_neg (by decide)] at hnext
          obtain ⟨b₃, bs₃, rfl, h₃, hnext⟩ := exists_of_scan_begun hnext
          rw [if_pos (Nat.le_refl 1)] at hnext
          rw [hnext.1, encodeChar_four hb (by omega) h₂ h₃ (by omega) (by omega) rfl]
          exact ⟨bs₃, rfl, hnext.2⟩

theorem scan_begun_ne_nil (more bits low high : Nat) (bs : List UInt8) :
    scan (.begun more bits low high) bs ≠ [] := by
  induction bs generalizing more bits low high with
  | nil => simp [scan]
  | cons b bs ih =>
    rw [scan_cons, step]
    dsimp only
    split
    · split
      · simp
      · simpa using ih _ _ _ _
    · simp

theorem scan_idle_eq_nil (h : scan .idle bs = []) : bs = [] := by
  cases bs with
  | nil => rfl
  | cons b bs =>
    rw [scan_cons, step, start] at h
    split at h
    · simp at h
    · split at h
      · exact absurd h (by simpa using scan_begun_ne_nil _ _ _ _ _)
      · simp at h

theorem eq_flatMap_of_scan {cs : List Char} (h : scan .idle bs = cs.map some) :
    bs = cs.flatMap String.utf8EncodeChar := by
  induction cs generalizing bs with
  | nil => exact scan_idle_eq_nil h
  | cons c cs ih =>
    obtain ⟨tail, rfl, htail⟩ := eq_append_of_scan h
    rw [List.flatMap_cons, ← ih htail]

theorem mapM_id_eq_some_iff {α : Type} {xs : List (Option α)} {ys : List α} :
    xs.mapM id = some ys ↔ xs = ys.map some := by
  induction xs generalizing ys with
  | nil => cases ys <;> simp [pure]
  | cons x xs ih =>
    rw [List.mapM_cons]
    cases x with
    | none => cases ys <;> simp
    | some x =>
      cases ys with
      | nil => cases xs.mapM id <;> simp [pure]
      | cons y ys =>
        rw [List.map_cons, List.cons.injEq, ← ih]
        cases xs.mapM id <;> simp [pure]

/-- The bytes that are read strictly are those of a text. -/
theorem decode?_eq_some_iff {bytes : List UInt8} {s : String} :
    decode? bytes = some s ↔ encode s = bytes := by
  rw [decode?, Option.map_eq_some_iff]
  constructor
  · rintro ⟨cs, hcs, rfl⟩
    rw [encode, String.toList_ofList]
    exact (eq_flatMap_of_scan (mapM_id_eq_some_iff.1 hcs)).symm
  · rintro rfl
    exact ⟨s.toList, mapM_id_eq_some_iff.2 (scan_encode s), String.ofList_toList⟩

end Listing.Text.Utf8
