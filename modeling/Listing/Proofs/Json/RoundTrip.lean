import Listing.Proofs.Json.Reader
import Listing.Proofs.Number.Layout

/-!
# Rendered values are read back

The text of a value is JSON and says that value, whatever characters its strings and keys hold
(`read?_render`). Only an infinity, which JSON cannot write, is told as null (`told`).
-/

set_option autoImplicit false

namespace Listing.Json

open Number Text

mutual
/-- What the text of a value tells. -/
def told : Json → Json
  | .null => .null
  | .bool b => .bool b
  | .int n => .int n
  | .real x => if x.isFinite then .real x else .null
  | .str s => .str s
  | .arr items => .arr (toldItems items)
  | .obj members => .obj (toldMembers members)

def toldItems : List Json → List Json
  | [] => []
  | j :: js => told j :: toldItems js

def toldMembers : List (String × Json) → List (String × Json)
  | [] => []
  | (k, j) :: ms => (k, told j) :: toldMembers ms
end

variable {c : Char} {cs ds rest : List Char} {s : String} {p : Parse} {j : Json}
  {stack : List Frame}

/-! ## Strings -/

/-- The part that stands for a character. -/
inductive Spells : Piece → Char → Prop
  | char (c : Char) : Spells (.char c) c
  | unit {c : Char} : c.toNat < 32 → Spells (.unit c.toNat) c

theorem combine_unit {n : Nat} (hn : n < 0xD800) (ps : List Piece) :
    combine (.unit n :: ps) = (combine ps).map (Char.ofNat n :: ·) := by
  have hsmall : (decide (n < 0xD800) || decide (0xE000 ≤ n)) = true := by simp [hn]
  cases ps with
  | nil => simp [combine, hn]
  | cons q ps =>
    cases q with
    | char => simp [combine, hn]
    | unit m => rw [combine, if_pos hsmall]

theorem combine_of_spells {ps : List Piece} (h : List.Forall₂ Spells ps cs) :
    combine ps = some cs := by
  induction h with
  | nil => rfl
  | cons hq _ ih =>
    cases hq with
    | char c =>
      rw [combine, ih]
      rfl
    | @unit c hc =>
      rw [combine_unit (by omega), ih, Char.ofNat_toNat]
      rfl

/-- What is written for a character stands for it. -/
theorem pieces_escape (c : Char) (cs : List Char) :
    ∃ q, Spells q c ∧ pieces (escape c ++ cs) = (pieces cs).map (q :: ·) := by
  unfold escape
  split_ifs with h1 h2 h3 h4 h5 h6 h7 h8
  · subst h1
    exact ⟨_, .char _, rfl⟩
  · subst h2
    exact ⟨_, .char _, rfl⟩
  · subst h3
    exact ⟨_, .char _, rfl⟩
  · subst h4
    exact ⟨_, .char _, rfl⟩
  · subst h5
    exact ⟨_, .char _, rfl⟩
  · subst h6
    exact ⟨_, .char _, rfl⟩
  · subst h7
    exact ⟨_, .char _, rfl⟩
  · refine ⟨.unit c.toNat, .unit h8, ?_⟩
    have hhigh := hexValue?_hexDigit (n := c.toNat / 16) (by omega)
    have hlow := hexValue?_hexDigit (n := c.toNat % 16) (by omega)
    have hzero : hexValue? '0' = some 0 := by decide
    have hunit : 4096 * 0 + 256 * 0 + 16 * (c.toNat / 16) + c.toNat % 16 = c.toNat := by omega
    simp only [List.cons_append, List.nil_append, pieces, hzero, hhigh, hlow, Option.bind_eq_bind,
      Option.bind_some, hunit]
  · refine ⟨.char c, .char c, ?_⟩
    have hplain : (decide (c = '\\') || decide (c.toNat < 32)) = false := by simp [h2, h8]
    rw [List.singleton_append, pieces]
    · rw [hplain]
      rfl
    · intro _ _ _ _ _ hc
      exact absurd hc h2
    · intro _ _ hc
      exact absurd hc h2

theorem unquote?_escape (s : String) : unquote? (s.toList.flatMap escape) = some s := by
  have hpieces : ∀ cs : List Char,
      ∃ ps, pieces (cs.flatMap escape) = some ps ∧ List.Forall₂ Spells ps cs := by
    intro cs
    induction cs with
    | nil => exact ⟨[], rfl, .nil⟩
    | cons c cs ih =>
      obtain ⟨ps, hps, hspells⟩ := ih
      obtain ⟨q, hq, hescape⟩ := pieces_escape c (cs.flatMap escape)
      refine ⟨q :: ps, ?_, .cons hq hspells⟩
      rw [List.flatMap_cons, hescape, hps]
      rfl
  obtain ⟨ps, hps, hspells⟩ := hpieces s.toList
  rw [unquote?, hps, Option.bind_some, combine_of_spells hspells, Option.map_some,
    String.ofList_toList]

/-! ## Tokens -/

theorem start_word (hc : Scan.endsWord c = false) : Scan.start c = ([], .word [c]) := by
  simp only [Scan.endsWord, Bool.or_eq_false_iff, Option.isSome_eq_false_iff,
    Option.isNone_iff_eq_none, decide_eq_false_iff_not] at hc
  simp [Scan.start, hc]

/-- The characters of a word are kept. -/
theorem readFrom_word (hcs : ∀ c ∈ cs, Scan.endsWord c = false) (seen rest : List Char)
    (p : Parse) :
    readFrom (.word seen) p (cs ++ rest) = readFrom (.word (cs.reverse ++ seen)) p rest := by
  induction cs generalizing seen with
  | nil => rfl
  | cons c cs ih =>
    have hc := hcs c List.mem_cons_self
    rw [List.cons_append, readFrom]
    simp only [Scan.step, hc, Bool.false_eq_true, if_false, Option.bind_eq_bind, Option.bind_some,
      List.foldlM_nil, Option.pure_def]
    rw [ih fun c hc => hcs c (List.mem_cons_of_mem _ hc), List.reverse_cons, List.append_assoc]
    rfl

/-- What follows a value ends a word. -/
def Ends (rest : List Char) : Prop := ∀ c ∈ rest.head?, Scan.endsWord c = true

/-- A word that ends is a token. -/
theorem readFrom_word_end (hrest : Ends rest) (seen : List Char) (p : Parse) :
    readFrom (.word seen) p rest
      = (p.step (.word seen.reverse)).bind fun p => readFrom .between p rest := by
  cases rest with
  | nil =>
    simp only [readFrom, Scan.finish, Option.bind_eq_bind, Option.bind_some, List.foldlM_cons,
      List.foldlM_nil, Option.pure_def, Option.bind_assoc]
  | cons c rest =>
    have hc := hrest c (by simp)
    simp only [readFrom, Scan.step, hc, if_true, Option.bind_eq_bind, Option.bind_some,
      List.foldlM_cons, Option.bind_assoc]

theorem readFrom_of_word (hne : cs ≠ []) (hcs : ∀ c ∈ cs, Scan.endsWord c = false)
    (hrest : Ends rest) (p : Parse) :
    readFrom .between p (cs ++ rest) =
      (p.step (.word cs)).bind fun p => readFrom .between p rest := by
  obtain ⟨c, cs, rfl⟩ := List.exists_cons_of_ne_nil hne
  have hstart := start_word (hcs c List.mem_cons_self)
  have hword := readFrom_word (fun c hc => hcs c (List.mem_cons_of_mem _ hc)) [c] rest p
  have hend := readFrom_word_end hrest (cs.reverse ++ [c]) p
  rw [List.reverse_append, List.reverse_reverse, List.reverse_singleton,
    List.singleton_append] at hend
  rw [List.cons_append, readFrom, ← hend, ← hword]
  simp [Scan.step, hstart]

theorem readFrom_text_plain (hquote : c ≠ '"') (hslash : c ≠ '\\') (seen cs : List Char)
    (p : Parse) :
    readFrom (.text seen) p (c :: cs) = readFrom (.text (c :: seen)) p cs := by
  simp [readFrom, Scan.step, hquote, hslash]

theorem readFrom_text_escape (c : Char) (seen cs : List Char) (p : Parse) :
    readFrom (.text seen) p ('\\' :: c :: cs) = readFrom (.text (c :: '\\' :: seen)) p cs := by
  simp [readFrom, Scan.step]

theorem hexDigit_plain {n : Nat} (hn : n < 16) : hexDigit n ≠ '"' ∧ hexDigit n ≠ '\\' := by
  have h : ∀ n : Fin 16, hexDigit n ≠ '"' ∧ hexDigit n ≠ '\\' := by decide
  exact h ⟨n, hn⟩

/-- No quote that is written for a character ends the text. -/
theorem readFrom_escape (c : Char) (seen cs : List Char) (p : Parse) :
    readFrom (.text seen) p (escape c ++ cs) =
      readFrom (.text ((escape c).reverse ++ seen)) p cs := by
  unfold escape
  split_ifs with h1 h2 h3 h4 h5 h6 h7 h8
  all_goals try exact readFrom_text_escape _ seen cs p
  · obtain ⟨hquote, hslash⟩ := hexDigit_plain (n := c.toNat / 16) (by omega)
    obtain ⟨hquote', hslash'⟩ := hexDigit_plain (n := c.toNat % 16) (by omega)
    simp only [List.cons_append, List.nil_append]
    rw [readFrom_text_escape, readFrom_text_plain (by decide) (by decide),
      readFrom_text_plain (by decide) (by decide), readFrom_text_plain hquote hslash,
      readFrom_text_plain hquote' hslash']
    rfl
  · exact readFrom_text_plain h1 h2 seen cs p

/-- The text between quotes is kept. -/
theorem readFrom_text (cs seen rest : List Char) (p : Parse) :
    readFrom (.text seen) p (cs.flatMap escape ++ rest)
      = readFrom (.text ((cs.flatMap escape).reverse ++ seen)) p rest := by
  induction cs generalizing seen with
  | nil => rfl
  | cons c cs ih =>
    rw [List.flatMap_cons, List.append_assoc, readFrom_escape, ih, List.reverse_append,
      List.append_assoc]

/-- A quoted text is a token. -/
theorem readFrom_quote (s : String) (rest : List Char) (p : Parse) :
    readFrom .between p ((quote s).toList ++ rest)
      = (p.step (.text s)).bind fun p => readFrom .between p rest := by
  have hquote : (quote s).toList ++ rest = '"' :: (s.toList.flatMap escape ++ '"' :: rest) := by
    simp [quote]
  have hopen : ∀ cs, readFrom .between p ('"' :: cs) = readFrom (.text []) p cs := by
    intro cs
    simp [readFrom, Scan.step, Scan.start, Token.ofChar?, isBlank]
  rw [hquote, hopen, readFrom_text, List.append_nil, readFrom]
  simp only [Scan.step, if_true, List.reverse_reverse, unquote?_escape, Option.map_some,
    Option.bind_eq_bind, Option.bind_some, List.foldlM_cons, List.foldlM_nil, Option.pure_def,
    Option.bind_assoc]

/-! ## Words -/

variable {fs : List Char} {n : Int} {m : Decimal} {x : Binary64}

theorem endsWord_of_isDigit (hc : c.isDigit = true) : Scan.endsWord c = false := by
  obtain ⟨hlow, hhigh⟩ : 48 ≤ c.toNat ∧ c.toNat ≤ 57 := by
    simpa [Char.isDigit, UInt32.le_iff_toNat_le] using hc
  have hdigit : ∀ k : Fin 10, Scan.endsWord (Char.ofNat (48 + k)) = false := by decide
  have h := hdigit ⟨c.toNat - 48, by omega⟩
  rwa [show 48 + (c.toNat - 48) = c.toNat by omega, Char.ofNat_toNat] at h

theorem endsWord_of_allDigits (hds : AllDigits ds) : ∀ c ∈ ds, Scan.endsWord c = false :=
  fun c hc => endsWord_of_isDigit (hds c hc)

theorem endsWord_of_integerLiteral (h : IntegerLiteral cs n) :
    ∀ c ∈ cs, Scan.endsWord c = false := by
  obtain ⟨hs, -, hds⟩ := h
  intro c hc
  rcases List.mem_append.1 hc with hc | hc
  · cases hs with
    | absent => cases hc
    | plus => rw [List.mem_singleton.1 hc]; decide
    | minus => rw [List.mem_singleton.1 hc]; decide
  · exact endsWord_of_allDigits hds c hc

theorem endsWord_of_magnitude (h : Magnitude cs m) : ∀ c ∈ cs, Scan.endsWord c = false := by
  obtain ⟨hbody, -, hpower⟩ := h
  intro c hc
  rcases List.mem_append.1 hc with hc | hc
  · cases hbody with
    | whole hds => exact endsWord_of_allDigits hds c hc
    | point hds hfs =>
      rcases List.mem_append.1 hc with hc | hc
      · exact endsWord_of_allDigits hds c hc
      · rcases List.mem_cons.1 hc with rfl | hc
        · decide
        · exact endsWord_of_allDigits hfs c hc
  · cases hpower with
    | absent => cases hc
    | marked hmark he =>
      rcases List.mem_cons.1 hc with rfl | hc
      · rcases hmark with rfl | rfl <;> decide
      · exact endsWord_of_integerLiteral he c hc

/-- A number is cut behind its sign and behind its leading digits. -/
theorem cut_number (fs : List Char) (hds : Leading ds) (hfs : fs.takeWhile Char.isDigit = [])
    (negative : Bool) :
    (if (minus negative ++ (ds ++ fs)).head? = some '-' then (minus negative ++ (ds ++ fs)).tail
      else minus negative ++ (ds ++ fs)) = ds ++ fs ∧
    (ds ++ fs).takeWhile Char.isDigit = ds ∧ (ds ++ fs).dropWhile Char.isDigit = fs := by
  refine ⟨?_, ?_, ?_⟩
  · obtain ⟨d, ds, rfl⟩ := List.exists_cons_of_ne_nil hds.ne_nil
    cases negative
    · have hne : d ≠ '-' := (ne_sign_of_isDigit hds.digits.head).2
      simp [minus, hne]
    · rfl
  · rw [hds.digits.takeWhile_append, hfs, List.append_nil]
  · have h := List.takeWhile_append_dropWhile (p := Char.isDigit) (l := fs)
    rw [hds.digits.dropWhile_append]
    rwa [hfs, List.nil_append] at h

theorem number?_integer (hds : Leading ds) (negative : Bool) :
    number? (minus negative ++ ds) = (integer? (minus negative ++ ds)).map .int := by
  obtain ⟨hunsigned, htake, hdrop⟩ := cut_number [] hds rfl negative
  rw [List.append_nil] at hunsigned htake hdrop
  rw [number?, hunsigned, htake, hdrop]
  split
  · exact absurd rfl hds.ne_nil
  · exact absurd rfl hds.ne_zero_cons
  · rfl
  · rename_i h
    cases h
  · rename_i h _
    exact absurd rfl h

theorem number?_real (hds : Leading ds) (hfs : Tail fs) (negative : Bool) :
    number? (minus negative ++ (ds ++ fs)) = real? (minus negative ++ (ds ++ fs)) := by
  have hdigits : fs.takeWhile Char.isDigit = [] := by cases hfs <;> rfl
  obtain ⟨hunsigned, htake, hdrop⟩ := cut_number fs hds hdigits negative
  rw [number?, hunsigned, htake, hdrop]
  split
  · exact absurd rfl hds.ne_nil
  · exact absurd rfl hds.ne_zero_cons
  · cases hfs
  · cases hfs with
    | fraction hc => simp [hc]
  · rfl

theorem word?_number (hds : Leading ds) (negative : Bool) (fs : List Char) :
    word? (minus negative ++ (ds ++ fs)) = number? (minus negative ++ (ds ++ fs)) := by
  obtain ⟨d, ds, rfl⟩ := List.exists_cons_of_ne_nil hds.ne_nil
  have hd := hds.digits.head
  have hne : ∀ name : List Char, (∀ c ∈ name.head?, c.isDigit = false ∧ c ≠ '-') →
      minus negative ++ (d :: ds ++ fs) ≠ name := by
    rintro _ hname rfl
    cases negative
    · have h := (hname d rfl).1
      rw [hd] at h
      cases h
    · exact (hname '-' rfl).2 rfl
  unfold word?
  rw [if_neg (hne "null".toList (by simp)), if_neg (hne "true".toList (by simp)),
    if_neg (hne "false".toList (by simp))]

theorem word?_toString (n : Int) : word? (toString n).toList = some (.int n) := by
  have hds := leading_toDigits n.natAbs
  have hsign := toList_toString_int n
  have hread := integer?_eq_some_iff.2 (integerLiteral_toString n)
  rw [hsign] at hread
  have hword := word?_number hds (n < 0) []
  rw [List.append_nil] at hword
  rw [hsign, hword, number?_integer hds, hread]
  rfl

theorem word?_numeral {d : Decimal} (h : Numeral cs d) (hfin : x.isFinite = true)
    (hnear : Binary64.Nearest d.toRat x.rank) :
    word? (minus x.negative ++ cs) = some (.real x) := by
  have hread := h.read? (sign_minus x.negative) rfl hfin hnear
  obtain ⟨ds, fs, rfl, hds, htail⟩ := h.parts
  rw [word?_number hds, number?_real hds htail, real?, hread, Option.filter_some_pos hfin,
    Option.map_some]

/-! ## Values -/

/-- A parse that goes on with a value inside of what is open. -/
def Awaits (p : Parse) (stack : List Frame) : Prop :=
  ∀ t, t ≠ .closeArray → p.step t = Parse.begin? t stack

theorem awaits_value (stack : List Frame) : Awaits ⟨.value, stack⟩ stack := fun _ _ => rfl

theorem awaits_valueOrEnd (stack : List Frame) :
    Awaits ⟨.valueOrEnd, stack⟩ (.array [] :: stack) := by
  intro t ht
  cases t <;> first | rfl | exact absurd rfl ht

/-- A parse that goes on with a key of the object. -/
def AwaitsKey (p : Parse) (members : List (String × Json)) (stack : List Frame) : Prop :=
  ∀ key, p.step (.text key) = some ⟨.colon members key, stack⟩

/-- A character that is a token. -/
theorem readFrom_mark {t : Token} (hc : Token.ofChar? c = some t) (cs : List Char) (p : Parse) :
    readFrom .between p (c :: cs) = (p.step t).bind fun p => readFrom .between p cs := by
  rw [readFrom]
  simp only [Scan.step, Scan.start, hc, Option.bind_eq_bind, Option.bind_some, List.foldlM_cons,
    List.foldlM_nil, Option.pure_def, Option.bind_assoc]

theorem ends_mark {t : Token} (hc : Token.ofChar? c = some t) (cs : List Char) :
    Ends (c :: cs) := by
  intro d hd
  obtain rfl := Option.some.inj hd
  simp [Scan.endsWord, hc]

theorem readFrom_value (hp : Awaits p stack) (hne : cs ≠ [])
    (hcs : ∀ c ∈ cs, Scan.endsWord c = false) (hword : word? cs = some j) (hrest : Ends rest) :
    readFrom .between p (cs ++ rest) = readFrom .between ⟨.afterValue j, stack⟩ rest := by
  rw [readFrom_of_word hne hcs hrest, hp _ (by simp), Parse.begin?, hword]
  rfl

/-- The three names. -/
theorem readFrom_name (name : String) (hp : Awaits p stack)
    (hname : name ∈ ["null", "true", "false"])
    (hword : word? name.toList = some j) (hrest : Ends rest) :
    readFrom .between p (name.toList ++ rest) = readFrom .between ⟨.afterValue j, stack⟩ rest := by
  simp only [List.mem_cons, List.not_mem_nil, or_false] at hname
  refine readFrom_value hp ?_ ?_ hword hrest
  · rcases hname with rfl | rfl | rfl <;> decide
  · rcases hname with rfl | rfl | rfl <;> simp [Scan.endsWord, Token.ofChar?, isBlank]

theorem readFrom_int (n : Int) (hp : Awaits p stack) (hrest : Ends rest) :
    readFrom .between p ((toString n).toList ++ rest)
      = readFrom .between ⟨.afterValue (.int n), stack⟩ rest := by
  apply readFrom_value hp ?_ (endsWord_of_integerLiteral (integerLiteral_toString n))
    (word?_toString n) hrest
  rw [toList_toString_int]
  simp

theorem readFrom_real (x : Binary64) (hp : Awaits p stack) (hrest : Ends rest) :
    readFrom .between p ((render (.real x)).toList ++ rest)
      = readFrom .between ⟨.afterValue (told (.real x)), stack⟩ rest := by
  have hsome := isSome_write? realLayout x
  rw [render, told]
  cases hwrite : realLayout.write? x with
  | none =>
    rw [hwrite, Option.isSome_none] at hsome
    rw [← hsome]
    exact readFrom_name "null" hp (by simp) rfl hrest
  | some s =>
    obtain ⟨hfin, cs, d, hnumeral, hnear, hs⟩ := exists_of_write? rfl rfl hwrite
    obtain ⟨m, hm, -⟩ := hnumeral.value
    rw [if_pos hfin, Option.getD_some, hs]
    refine readFrom_value hp ?_ ?_ (word?_numeral hnumeral hfin hnear) hrest
    · obtain ⟨ds, fs, rfl, hds, -⟩ := hnumeral.parts
      simp [hds.ne_nil]
    · intro c hc
      rcases List.mem_append.1 hc with hc | hc
      · cases hsign : x.negative with
        | false =>
          rw [hsign] at hc
          cases hc
        | true =>
          rw [hsign] at hc
          rw [List.mem_singleton.1 hc]
          decide
      · exact endsWord_of_magnitude hm c hc

mutual
/-- The text of a value, wherever a value may stand, is read as what it tells. -/
theorem readFrom_render : ∀ (j : Json) {p : Parse} {stack : List Frame} {rest : List Char},
    Awaits p stack → Ends rest → readFrom .between p ((render j).toList ++ rest)
      = readFrom .between ⟨.afterValue (told j), stack⟩ rest
  | .null, _, _, _, hp, hrest => readFrom_name "null" hp (by simp) rfl hrest
  | .bool true, _, _, _, hp, hrest => readFrom_name "true" hp (by simp) rfl hrest
  | .bool false, _, _, _, hp, hrest => readFrom_name "false" hp (by simp) rfl hrest
  | .int n, _, _, _, hp, hrest => readFrom_int n hp hrest
  | .real x, _, _, _, hp, hrest => readFrom_real x hp hrest
  | .str s, _, _, _, hp, _ => by
    rw [render, readFrom_quote, hp _ (by simp)]
    rfl
  | .arr items, p, stack, rest, hp, _ => by
    have htext : (render (.arr items)).toList ++ rest
        = '[' :: ((",".intercalate (renderItems items)).toList ++ ']' :: rest) := by
      simp [render, bracket]
    rw [htext, readFrom_mark rfl, hp _ (by simp)]
    by_cases hne : items = []
    · rw [hne]
      show readFrom .between _ (']' :: rest) = _
      rw [readFrom_mark rfl]
      rfl
    · exact readFrom_items items hne (awaits_valueOrEnd stack)
  | .obj members, p, stack, rest, hp, _ => by
    have htext : (render (.obj members)).toList ++ rest
        = '\x7b' :: ((",".intercalate (renderMembers members)).toList ++ '\x7d' :: rest) := by
      simp [render, bracket]
    rw [htext, readFrom_mark rfl, hp _ (by simp)]
    by_cases hne : members = []
    · rw [hne]
      show readFrom .between _ ('\x7d' :: rest) = _
      rw [readFrom_mark rfl]
      rfl
    · have hkey : AwaitsKey ⟨.keyOrEnd, stack⟩ [] stack := fun _ => rfl
      exact readFrom_members members hne hkey

/-- The items of an array, behind those read before. -/
theorem readFrom_items : ∀ (items : List Json), items ≠ [] →
    ∀ {before : List Json} {p : Parse} {stack : List Frame} {rest : List Char},
    Awaits p (.array before :: stack) →
    readFrom .between p ((",".intercalate (renderItems items)).toList ++ ']' :: rest)
      = readFrom .between ⟨.afterValue (.arr (before.reverse ++ toldItems items)), stack⟩ rest
  | [], hne, _, _, _, _, _ => absurd rfl hne
  | [item], _, before, p, stack, rest, hp => by
    have htext : (",".intercalate (renderItems [item])).toList = (render item).toList := by
      simp [renderItems]
    rw [htext, readFrom_render item hp (ends_mark rfl rest), readFrom_mark rfl]
    simp [Parse.step, toldItems]
  | item :: next :: items, _, before, p, stack, rest, hp => by
    have htext : (",".intercalate (renderItems (item :: next :: items))).toList ++ ']' :: rest
        = (render item).toList
          ++ ',' :: ((",".intercalate (renderItems (next :: items))).toList ++ ']' :: rest) := by
      simp [renderItems]
    have hnext := awaits_value (.array (told item :: before) :: stack)
    have hitems : toldItems (item :: next :: items) = told item :: toldItems (next :: items) := rfl
    rw [htext, readFrom_render item hp (ends_mark rfl _), readFrom_mark rfl]
    show readFrom .between _ _ = _
    rw [readFrom_items (next :: items) (by simp) hnext, List.reverse_cons,
      List.append_assoc, hitems]
    rfl

/-- The members of an object, behind those read before. -/
theorem readFrom_members : ∀ (members : List (String × Json)), members ≠ [] →
    ∀ {before : List (String × Json)} {p : Parse} {stack : List Frame} {rest : List Char},
    AwaitsKey p before stack →
    readFrom .between p ((",".intercalate (renderMembers members)).toList ++ '\x7d' :: rest)
      = readFrom .between ⟨.afterValue (.obj (before.reverse ++ toldMembers members)), stack⟩ rest
  | [], hne, _, _, _, _, _ => absurd rfl hne
  | [(key, j)], _, before, p, stack, rest, hp => by
    have htext : (",".intercalate (renderMembers [(key, j)])).toList ++ '\x7d' :: rest
        = (quote key).toList ++ ':' :: ((render j).toList ++ '\x7d' :: rest) := by
      simp [renderMembers]
    have hvalue := awaits_value (.object before key :: stack)
    rw [htext, readFrom_quote, hp key, Option.bind_some, readFrom_mark rfl]
    show readFrom .between _ _ = _
    rw [readFrom_render j hvalue (ends_mark rfl rest), readFrom_mark rfl]
    simp [Parse.step, toldMembers]
  | (key, j) :: next :: members, _, before, p, stack, rest, hp => by
    have htext :
        (",".intercalate (renderMembers ((key, j) :: next :: members))).toList ++ '\x7d' :: rest
        = (quote key).toList ++ ':' :: ((render j).toList
          ++ ',' :: ((",".intercalate (renderMembers (next :: members))).toList
          ++ '\x7d' :: rest)) := by
      obtain ⟨k, i⟩ := next
      simp [renderMembers]
    have hvalue := awaits_value (.object before key :: stack)
    have hnext : AwaitsKey ⟨.key ((key, told j) :: before), stack⟩
        ((key, told j) :: before) stack :=
      fun _ => rfl
    have hmembers : toldMembers ((key, j) :: next :: members)
        = (key, told j) :: toldMembers (next :: members) := rfl
    rw [htext, readFrom_quote, hp key, Option.bind_some, readFrom_mark rfl]
    show readFrom .between _ _ = _
    rw [readFrom_render j hvalue (ends_mark rfl _), readFrom_mark rfl]
    show readFrom .between _ _ = _
    rw [readFrom_members (next :: members) (by simp) hnext, List.reverse_cons, List.append_assoc,
      hmembers]
    rfl
end

/-- The text of a value says what is told of the value, and nothing else. -/
theorem read?_render (j : Json) : read? j.render = some j.told := by
  have hend : Ends [] := fun c hc => by cases hc
  have h := readFrom_render j (awaits_value []) hend
  rw [List.append_nil] at h
  rw [read?, h]
  rfl

end Listing.Json
