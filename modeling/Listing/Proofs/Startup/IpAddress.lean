import Listing.Proofs.Number.Layout
import Listing.Proofs.Text.LetterCase
import Listing.Startup.SocketAddress

/-!
# Texts of IP addresses

`IpAddress.read?` reads an address of either family. The standard form of an address is read back as
the address (`read?_text`): octets and groups by their digits, and the run of zeros that is left out
by what is missing. A text that is read as an address is made of digits, dots and colons; of an IPv6
address there is a colon in it with no dot before (`exists_colon_of_v6?`).
-/

set_option autoImplicit false

namespace Listing

open Number Text

namespace IpAddress

/-- Four numbers below 256, or eight below 65536. -/
def WellFormed : IpAddress → Prop
  | .v4 a b c d => a < 256 ∧ b < 256 ∧ c < 256 ∧ d < 256
  | .v6 groups => groups.length = 8 ∧ ∀ g ∈ groups, g < 65536

/-- The address that a text stands for, in whatever spelling. -/
def read? (s : String) : Option IpAddress :=
  match octets? s.toList with
  | some (a, b, c, d) => some (.v4 a b c d)
  | none => (v6? s.toList).map .v6

variable {c mark : Char} {cs word : List Char} {words : List (List Char)} {g n : Nat}
  {gs : List Nat} {octets : Bool} {q : Nat × Nat × Nat × Nat}

/-! ## Cutting at a sign -/

theorem mem_intercalate (h : c ∈ [mark].intercalate words) : c = mark ∨ ∃ w ∈ words, c ∈ w := by
  induction words with
  | nil => simp at h
  | cons w words ih =>
    cases words with
    | nil => exact .inr ⟨w, List.mem_cons_self, by simpa using h⟩
    | cons v words =>
      rw [List.intercalate_cons_cons, List.mem_append, List.mem_append] at h
      rcases h with (h | h) | h
      · exact .inr ⟨w, List.mem_cons_self, h⟩
      · exact .inl (List.mem_singleton.1 h)
      · exact (ih h).imp_right fun ⟨u, hu, hc⟩ => ⟨u, List.mem_cons_of_mem _ hu, hc⟩

/-- A character of a text is the sign at which the text is cut, or in one of the pieces. -/
theorem mem_of_splitOn (mark : Char) (h : c ∈ cs) : c = mark ∨ ∃ w ∈ cs.splitOn mark, c ∈ w := by
  have hcs : [mark].intercalate (cs.splitOn mark) = cs := List.intercalate_splitOn mark
  rw [← hcs] at h
  exact mem_intercalate h

/-! ## Octets -/

theorem natural?_toDigits (n : Nat) : natural? (Nat.toDigits 10 n) = some n := by
  rw [natural?_of_digits Nat.toDigits_ne_nil (allDigits_toDigits n), ofDigits_toDigits]

theorem octet?_toDigits (h : n < 256) : octet? (Nat.toDigits 10 n) = some n := by
  have hlength : (Nat.toDigits 10 n).length ≤ 3 :=
    (Nat.length_toDigits_le_iff (by decide) (by decide)).2 (by omega)
  have hzero : (Nat.toDigits 10 n).length = 1 ∨ (Nat.toDigits 10 n).head? ≠ some '0' := by
    by_cases hhead : (Nat.toDigits 10 n).head? = some '0'
    · exact .inl (by rw [(leading_toDigits n).head hhead, List.length_singleton])
    · exact .inr hhead
  rw [octet?, if_pos (by simpa [hlength] using hzero), natural?_toDigits]
  simp [Nat.le_of_lt_succ h]

theorem toList_toString (n : Nat) : (toString n).toList = Nat.toDigits 10 n := by
  rw [Nat.toString_eq_repr, Nat.repr_eq_ofList_toDigits, String.toList_ofList]

theorem toList_octetsText (a b c d : Nat) :
    (octetsText a b c d).toList = ['.'].intercalate ([a, b, c, d].map (Nat.toDigits 10)) := by
  simp [octetsText, List.intercalate_cons_cons]

theorem octets?_octetsText {a b c d : Nat} (h : WellFormed (.v4 a b c d)) :
    octets? (octetsText a b c d).toList = some (a, b, c, d) := by
  obtain ⟨ha, hb, hc, hd⟩ := h
  have hpoint : ∀ w ∈ [a, b, c, d].map (Nat.toDigits 10), '.' ∉ w := by
    intro w hw
    obtain ⟨n, -, rfl⟩ := List.mem_map.1 hw
    exact point_not_mem_toDigits n
  rw [octets?, toList_octetsText, List.splitOn_intercalate '.' hpoint (by simp)]
  simp [octet?_toDigits ha, octet?_toDigits hb, octet?_toDigits hc, octet?_toDigits hd]

theorem allDigits_of_octet? (h : octet? cs = some n) : AllDigits cs := by
  unfold octet? at h
  split at h
  · obtain ⟨hn, -⟩ := Option.filter_eq_some_iff.1 h
    exact (natural?_eq_some_iff.1 hn).2.1
  · cases h

/-- Octets are digits, and dots between them. -/
theorem isDigit_or_of_octets? (h : octets? cs = some q) (hc : c ∈ cs) :
    c.isDigit = true ∨ c = '.' := by
  unfold octets? at h
  split at h
  · rename_i w x y z hpieces
    have hdigits : ∀ v ∈ cs.splitOn '.', AllDigits v := by
      simp only [Option.bind_eq_bind, Option.bind_eq_some_iff] at h
      obtain ⟨_, hw, _, hx, _, hy, _, hz, -⟩ := h
      rw [hpieces]
      simp [allDigits_of_octet? hw, allDigits_of_octet? hx, allDigits_of_octet? hy,
        allDigits_of_octet? hz]
    rcases mem_of_splitOn '.' hc with rfl | ⟨v, hv, hcv⟩
    · exact .inr rfl
    · exact .inl (hdigits v hv c hcv)
  · cases h

/-! ## Groups -/

theorem mapM_hexValue?_toDigits (n : Nat) : ∃ ds, (Nat.toDigits 16 n).mapM hexValue? = some ds ∧
    ds.foldl (fun n d => 16 * n + d) 0 = n := by
  induction n using Nat.strongRecOn with
  | ind n ih =>
    have hdigit : ∀ d : Fin 16, hexValue? (Nat.digitChar d) = some d.val := by decide
    by_cases hn : n < 16
    · refine ⟨[n], ?_, by simp⟩
      rw [Nat.toDigits_of_lt_base hn]
      simp [hdigit ⟨n, hn⟩]
    · obtain ⟨ds, hds, hvalue⟩ := ih (n / 16) (by omega)
      refine ⟨ds ++ [n % 16], ?_, ?_⟩
      · rw [Nat.toDigits_of_base_le (by decide) (Nat.not_lt.1 hn), List.mapM_append, hds]
        simp [hdigit ⟨n % 16, Nat.mod_lt n (by decide)⟩]
      · rw [List.foldl_append, hvalue, List.foldl_cons, List.foldl_nil]
        omega

theorem group?_toDigits (h : g < 65536) : group? (Nat.toDigits 16 g) = some g := by
  obtain ⟨ds, hds, hvalue⟩ := mapM_hexValue?_toDigits g
  have hlength : (Nat.toDigits 16 g).length ≤ 4 :=
    (Nat.length_toDigits_le_iff (by decide) (by decide)).2 (by omega)
  have hshort : ¬ 4 < (Nat.toDigits 16 g).length := Nat.not_lt.2 hlength
  unfold group?
  rw [hds]
  simp [Nat.toDigits_ne_nil, hshort, hvalue]

theorem ne_none_of_mapM {α β : Type} {f : α → Option β} {l : List α} {bs : List β}
    (h : l.mapM f = some bs) : ∀ a ∈ l, f a ≠ none := by
  induction l generalizing bs with
  | nil => simp
  | cons a l ih =>
    rw [List.mapM_cons] at h
    simp only [Option.bind_eq_bind, Option.bind_eq_some_iff] at h
    obtain ⟨b, hb, bs, hbs, -⟩ := h
    exact List.forall_mem_cons.2 ⟨by simp [hb], ih hbs⟩

/-- A hexadecimal digit is none of the signs of an address. -/
theorem ne_of_hexValue? (h : hexValue? c ≠ none) :
    c ≠ ':' ∧ c ≠ '.' ∧ c ≠ '%' ∧ c ≠ '[' ∧ c ≠ ']' := by
  simp only [← not_or]
  rintro (rfl | rfl | rfl | rfl | rfl) <;> exact h rfl

theorem hexValue?_of_group? (h : group? cs = some g) : ∀ c ∈ cs, hexValue? c ≠ none := by
  unfold group? at h
  split at h
  · cases h
  · obtain ⟨ds, hds, -⟩ := Option.map_eq_some_iff.1 h
    exact ne_none_of_mapM hds

theorem hexValue?_of_mem_toDigits (hc : c ∈ Nat.toDigits 16 n) : hexValue? c ≠ none := by
  obtain ⟨ds, hds, -⟩ := mapM_hexValue?_toDigits n
  exact ne_none_of_mapM hds c hc

theorem groups?_toDigits (octets : Bool) (h : ∀ g ∈ gs, g < 65536) :
    groups? octets (gs.map (Nat.toDigits 16)) = some gs := by
  induction gs with
  | nil => rfl
  | cons g gs ih =>
    obtain ⟨hg, hgs⟩ := List.forall_mem_cons.1 h
    cases gs with
    | nil => simp [groups?, group?_toDigits hg]
    | cons k ks =>
      have ih := ih hgs
      rw [List.map_cons] at ih
      rw [List.map_cons, List.map_cons, groups?, group?_toDigits hg, ih]
      · rfl
      · simp

theorem toList_groupsText (gs : List Nat) :
    (groupsText gs).toList = [':'].intercalate (gs.map (Nat.toDigits 16)) := by
  simp [groupsText, groupText, Function.comp_def]

theorem colon_not_mem_toDigits (n : Nat) : ':' ∉ Nat.toDigits 16 n := fun h =>
  (ne_of_hexValue? (hexValue?_of_mem_toDigits h)).1 rfl

theorem section?_groupsText (octets : Bool) (h : ∀ g ∈ gs, g < 65536) : section? octets
    (groupsText gs).toList = some gs := by
  cases gs with
  | nil => rfl
  | cons g gs =>
    have hcolon : ∀ w ∈ (g :: gs).map (Nat.toDigits 16), ':' ∉ w := by
      intro w hw
      obtain ⟨n, -, rfl⟩ := List.mem_map.1 hw
      exact colon_not_mem_toDigits n
    have hsplit : (groupsText (g :: gs)).toList.splitOn ':' = (g :: gs).map (Nat.toDigits 16) := by
      rw [toList_groupsText]
      exact List.splitOn_intercalate ':' hcolon (by simp)
    have hne : (groupsText (g :: gs)).toList ≠ [] := by
      intro hnil
      rw [hnil, List.splitOn_nil, List.map_cons] at hsplit
      exact Nat.toDigits_ne_nil (List.cons.inj hsplit).1.symm
    rw [section?, if_neg hne, hsplit, groups?_toDigits octets h]

/-! ## The gap -/

/-- A gap does not begin with a sign that is no colon, nor with a colon alone. -/
theorem cutGap_cons (h : c = ':' → cs.head? ≠ some ':') :
    cutGap (c :: cs) = (cutGap cs).map fun (front, back) => (c :: front, back) := by
  rw [cutGap]
  rintro rest rfl rfl
  exact h rfl rfl

theorem cutGap_word (h : ':' ∉ word) (cs : List Char) :
    cutGap (word ++ cs) = (cutGap cs).map fun (front, back) => (word ++ front, back) := by
  induction word with
  | nil => simp
  | cons c word ih =>
    obtain ⟨hc, hword⟩ := not_or.1 (mt List.mem_cons.2 h)
    rw [List.cons_append, cutGap_cons fun h => absurd h.symm hc, ih hword, Option.map_map]
    rfl

/-- The first gap lies behind words with one colon between any two of them. -/
theorem cutGap_intercalate (h : ∀ w ∈ words, w ≠ [] ∧ ':' ∉ w) (cs : List Char) :
    cutGap ([':'].intercalate words ++ cs)
      = (cutGap cs).map fun (front, back) => ([':'].intercalate words ++ front, back) := by
  induction words with
  | nil => simp
  | cons w words ih =>
    obtain ⟨⟨hne, hw⟩, hwords⟩ := List.forall_mem_cons.1 h
    cases words with
    | nil => simpa using cutGap_word hw cs
    | cons v words =>
      obtain ⟨d, ds, rfl⟩ := List.exists_cons_of_ne_nil (hwords v List.mem_cons_self).1
      have hd : d ≠ ':' := fun heq => (hwords _ List.mem_cons_self).2 (heq ▸ List.mem_cons_self)
      -- the word behind the colon does not begin with another one, so there is no gap between
      -- the two
      have hhead : ([':'].intercalate ((d :: ds) :: words) ++ cs).head? ≠ some ':' := by
        cases words <;> simpa using hd
      rw [List.intercalate_cons_cons, List.append_assoc, List.append_assoc, cutGap_word hw,
        List.singleton_append, cutGap_cons fun _ => hhead, ih hwords, Option.map_map,
        Option.map_map]
      simp [Function.comp_def]

theorem cutGap_groupsText (gs : List Nat) (cs : List Char) : cutGap ((groupsText gs).toList ++ cs)
    = (cutGap cs).map fun (front, back) => ((groupsText gs).toList ++ front, back) := by
  rw [toList_groupsText]
  refine cutGap_intercalate (fun w hw => ?_) cs
  obtain ⟨n, -, rfl⟩ := List.mem_map.1 hw
  exact ⟨Nat.toDigits_ne_nil, colon_not_mem_toDigits n⟩

theorem append_of_cutGap {front back : List Char} (h : cutGap cs = some (front, back)) :
    cs = front ++ ':' :: ':' :: back := by
  induction cs generalizing front with
  | nil => cases h
  | cons c cs ih =>
    by_cases hgap : c = ':' → cs.head? ≠ some ':'
    · rw [cutGap_cons hgap] at h
      obtain ⟨⟨rest, back'⟩, hrest, heq⟩ := Option.map_eq_some_iff.1 h
      cases heq
      rw [ih hrest]
      rfl
    · rw [Classical.not_imp, not_not, List.head?_eq_some_iff] at hgap
      obtain ⟨rfl, rest, rfl⟩ := hgap
      cases h
      rfl

/-! ## The run of zeros -/

theorem replicate_zeros_append (gs : List Nat) :
    List.replicate (zeros gs) 0 ++ gs.drop (zeros gs) = gs := by
  induction gs with
  | nil => rfl
  | cons g gs ih =>
    by_cases hg : g = 0
    · have hzeros : zeros (g :: gs) = zeros gs + 1 := by simp [zeros, hg]
      rw [hzeros, List.replicate_succ, List.drop_succ_cons, List.cons_append, ih, hg]
    · have hzeros : zeros (g :: gs) = 0 := by simp [zeros, hg]
      rw [hzeros, List.replicate_zero, List.drop_zero, List.nil_append]

/-- The longest run of zeros is a run of zeros: it can be left out and put back. -/
theorem longestZeros_eq (gs : List Nat) (index : Nat) : ∃ start length,
    longestZeros index gs = (index + start, length) ∧
      gs = gs.take start ++ (List.replicate length 0 ++ gs.drop (start + length)) := by
  induction gs generalizing index with
  | nil => exact ⟨0, 0, rfl, rfl⟩
  | cons g gs ih =>
    obtain ⟨start, length, hthere, hsplit⟩ := ih (index + 1)
    rw [longestZeros, hthere]
    dsimp only
    split
    · refine ⟨0, zeros (g :: gs), rfl, ?_⟩
      rw [List.take_zero, List.nil_append, Nat.zero_add, replicate_zeros_append]
    · refine ⟨start + 1, length, by rw [Nat.add_right_comm, Nat.add_assoc], ?_⟩
      rw [List.take_succ_cons, Nat.add_right_comm, List.drop_succ_cons, List.cons_append, ← hsplit]

/-! ## Reading what is written -/

theorem v6?_groupsText (h : WellFormed (.v6 gs)) : v6? (groupsText gs).toList = some gs := by
  have hgap : cutGap (groupsText gs).toList = none := by
    have := cutGap_groupsText gs []
    rwa [List.append_nil] at this
  rw [v6?, hgap]
  dsimp only
  rw [section?_groupsText true h.2]
  simp [h.1]

/-- What is missing between two sections is as many zeros as make eight groups. -/
theorem v6?_gap {front back : List Nat} {length : Nat}
    (hlength : front.length + length + back.length = 8) (hpos : 0 < length)
    (hfront : ∀ g ∈ front, g < 65536) (hback : ∀ g ∈ back, g < 65536) :
    v6? ((groupsText front).toList ++ ':' :: ':' :: (groupsText back).toList)
      = some (front ++ (List.replicate length 0 ++ back)) := by
  have hgap :
      cutGap (':' :: ':' :: (groupsText back).toList) = some ([], (groupsText back).toList) := rfl
  rw [v6?, cutGap_groupsText, hgap, Option.map_some]
  dsimp only
  rw [List.append_nil, section?_groupsText false hfront, section?_groupsText true hback]
  have hzeros : 8 - (front.length + back.length) = length := by omega
  have hknown : front.length + back.length ≤ 7 := by omega
  simp [hknown, hzeros]

theorem colon_not_mem_octets (h : octets? cs = some q) : ':' ∉ cs := by
  intro hc
  rcases isDigit_or_of_octets? h hc with hdigit | heq
  · exact absurd hdigit (by decide)
  · exact absurd heq (by decide)

theorem group?_octetsText (a b c d : Nat) : group? (octetsText a b c d).toList = none := by
  cases h : group? (octetsText a b c d).toList with
  | none => rfl
  | some g =>
    have hpoint : '.' ∈ (octetsText a b c d).toList := by simp [octetsText]
    exact absurd rfl (hexValue?_of_group? h '.' hpoint)

/-- The last two groups are read from octets. -/
theorem section?_octets {a b c d : Nat} (h : octets? cs = some (a, b, c, d))
    (hnone : group? cs = none) : section? true ("ffff:".toList ++ cs)
      = some [0xffff, 256 * a + b, 256 * c + d] := by
  have hcolon : ∀ w ∈ ["ffff".toList, cs], ':' ∉ w := by simpa using colon_not_mem_octets h
  have hsplit : ("ffff:".toList ++ cs).splitOn ':' = ["ffff".toList, cs] := by
    have := List.splitOn_intercalate ':' hcolon (by simp)
    simpa [List.intercalate_cons_cons] using this
  have hffff : group? ['f', 'f', 'f', 'f'] = some 0xffff := by decide
  rw [section?, if_neg (by simp), hsplit]
  simp [groups?, hffff, hnone, h]

theorem v6?_octetsText {g k : Nat} (hg : g < 65536) (hk : k < 65536) :
    v6? ("::ffff:" ++ octetsText (g / 256) (g % 256) (k / 256) (k % 256)).toList
      = some [0, 0, 0, 0, 0, 0xffff, g, k] := by
  have hread := octets?_octetsText (show WellFormed (.v4 (g / 256) (g % 256) (k / 256) (k % 256)) by
    unfold WellFormed
    omega)
  have hnone := group?_octetsText (g / 256) (g % 256) (k / 256) (k % 256)
  generalize octetsText (g / 256) (g % 256) (k / 256) (k % 256) = octets at hread hnone
  have hgap : cutGap ("::ffff:" ++ octets).toList = some ([], "ffff:".toList ++ octets.toList) := by
    rw [String.toList_append]
    rfl
  rw [v6?, hgap]
  dsimp only
  rw [section?_octets hread hnone, Nat.div_add_mod, Nat.div_add_mod]
  rfl

theorem v6?_text (h : WellFormed (.v6 gs)) : v6? (text (.v6 gs)).toList = some gs := by
  unfold text
  dsimp only
  split
  · rename_i g k
    exact v6?_octetsText (h.2 g (by simp)) (h.2 k (by simp))
  · obtain ⟨start, length, hzeros, hsplit⟩ := longestZeros_eq gs 0
    rw [Nat.zero_add] at hzeros
    rw [hzeros]
    dsimp only
    split
    · exact v6?_groupsText h
    · rename_i hlength
      -- what is left of the eight groups tells the reader how many zeros the gap stands for
      have hcount := congrArg List.length hsplit
      rw [List.length_append, List.length_append, List.length_replicate, h.1] at hcount
      have hfront : ∀ g ∈ gs.take start, g < 65536 := fun g hg => h.2 g (List.mem_of_mem_take hg)
      have hback : ∀ g ∈ gs.drop (start + length), g < 65536 :=
        fun g hg => h.2 g (List.mem_of_mem_drop hg)
      have hread := v6?_gap (by omega : _ + length + _ = 8) (by omega) hfront hback
      rw [← hsplit] at hread
      simpa [String.toList_append] using hread

/-! ## What texts of addresses are made of -/

/-- A character of an address: a digit of a group, or one of the signs between them. -/
def IsAddressChar (c : Char) : Prop := hexValue? c ≠ none ∨ c = ':' ∨ c = '.'

theorem hexValue?_of_isDigit (h : c.isDigit = true) : hexValue? c ≠ none := by simp [hexValue?, h]

theorem IsAddressChar.ne (h : IsAddressChar c) : c ≠ '%' ∧ c ≠ '[' ∧ c ≠ ']' := by
  rcases h with h | rfl | rfl
  · exact (ne_of_hexValue? h).2.2
  · decide
  · decide

theorem isAddressChar_of_octets? (h : octets? cs = some q) (hc : c ∈ cs) : IsAddressChar c :=
  (isDigit_or_of_octets? h hc).imp hexValue?_of_isDigit .inr

theorem groups?_cons_cons {v : List Char} (h : groups? octets (word :: v :: words) = some gs) :
    ∃ g ks, group? word = some g ∧ groups? octets (v :: words) = some ks ∧ gs = g :: ks := by
  rw [groups?] at h
  · simp only [Option.bind_eq_bind, Option.bind_eq_some_iff, Option.pure_def,
      Option.some.injEq] at h
    obtain ⟨g, hg, ks, hks, rfl⟩ := h
    exact ⟨g, ks, hg, hks, rfl⟩
  · simp

theorem groups?_singleton (h : groups? octets [word] = some gs) :
    gs.length ≤ 2 ∧ ((∃ g, group? word = some g) ∨ octets = true ∧ ∃ q, octets? word = some q) := by
  rw [groups?] at h
  split at h
  · rename_i g hg
    cases h
    exact ⟨by simp, .inl ⟨g, hg⟩⟩
  · split at h
    · rename_i hoctets
      obtain ⟨q, hq, rfl⟩ := Option.map_eq_some_iff.1 h
      exact ⟨by simp, .inr ⟨hoctets, q, hq⟩⟩
    · cases h

theorem isAddressChar_of_groups? (h : groups? octets words = some gs) :
    ∀ w ∈ words, ∀ c ∈ w, IsAddressChar c := by
  induction words generalizing gs with
  | nil => simp
  | cons w words ih =>
    cases words with
    | nil =>
      intro v hv c hc
      obtain rfl := List.mem_singleton.1 hv
      rcases (groups?_singleton h).2 with ⟨g, hg⟩ | ⟨-, q, hq⟩
      · exact .inl (hexValue?_of_group? hg c hc)
      · exact isAddressChar_of_octets? hq hc
    | cons v words =>
      obtain ⟨g, ks, hg, hks, -⟩ := groups?_cons_cons h
      exact List.forall_mem_cons.2 ⟨fun c hc => .inl (hexValue?_of_group? hg c hc), ih hks⟩

theorem isAddressChar_of_section? (h : section? octets cs = some gs) (hc : c ∈ cs) :
    IsAddressChar c := by
  rw [section?, if_neg (List.ne_nil_of_mem hc)] at h
  rcases mem_of_splitOn ':' hc with rfl | ⟨w, hw, hcw⟩
  · exact .inr (.inl rfl)
  · exact isAddressChar_of_groups? h w hw c hcw

theorem isAddressChar_of_v6? (h : v6? cs = some gs) (hc : c ∈ cs) : IsAddressChar c := by
  unfold v6? at h
  split at h
  · exact isAddressChar_of_section? (Option.filter_eq_some_iff.1 h).1 hc
  · rename_i front back hgap
    simp only [Option.bind_eq_bind, Option.bind_eq_some_iff] at h
    obtain ⟨ks, hfront, ms, hback, -⟩ := h
    rw [append_of_cutGap hgap] at hc
    simp only [List.mem_append, List.mem_cons] at hc
    rcases hc with hc | rfl | rfl | hc
    · exact isAddressChar_of_section? hfront hc
    · exact .inr (.inl rfl)
    · exact .inr (.inl rfl)
    · exact isAddressChar_of_section? hback hc

/-- A section is empty, begins with a group and a colon, or has no colon and at most two groups. -/
theorem section?_cases (h : section? octets cs = some gs) : cs = [] ∨
    (∃ front rest, cs = front ++ ':' :: rest ∧ ∀ c ∈ front, hexValue? c ≠ none) ∨
    gs.length ≤ 2 ∧ (octets = false → ∀ c ∈ cs, hexValue? c ≠ none) := by
  by_cases hne : cs = []
  · exact .inl hne
  rw [section?, if_neg hne] at h
  have hjoin : [':'].intercalate (cs.splitOn ':') = cs := List.intercalate_splitOn ':'
  cases hsplit : cs.splitOn ':' with
  | nil => exact absurd hsplit (List.splitOn_ne_nil ':' cs)
  | cons w words =>
    rw [hsplit] at h hjoin
    cases words with
    | nil =>
      obtain ⟨hlength, hword⟩ := groups?_singleton h
      obtain rfl : w = cs := by simpa using hjoin
      refine .inr (.inr ⟨hlength, fun hfalse => ?_⟩)
      rcases hword with ⟨g, hg⟩ | ⟨htrue, -⟩
      · exact hexValue?_of_group? hg
      · rw [hfalse] at htrue
        cases htrue
    | cons v words =>
      obtain ⟨g, ks, hg, -, -⟩ := groups?_cons_cons h
      refine .inr (.inl ⟨w, [':'].intercalate (v :: words), ?_, hexValue?_of_group? hg⟩)
      rw [← hjoin, List.intercalate_cons_cons, List.append_assoc, List.singleton_append]

/-- In the text of an IPv6 address there is a colon, and no dot before it. -/
theorem exists_colon_of_v6? (h : v6? cs = some gs) :
    ∃ front rest, cs = front ++ ':' :: rest ∧ ∀ c ∈ front, hexValue? c ≠ none := by
  unfold v6? at h
  split at h
  · obtain ⟨hsection, hlength⟩ := Option.filter_eq_some_iff.1 h
    have hlength := of_decide_eq_true hlength
    rcases section?_cases hsection with rfl | hcolon | ⟨hle, -⟩
    · cases hsection
      cases hlength
    · exact hcolon
    · omega
  · rename_i front back hgap
    have hcs := append_of_cutGap hgap
    simp only [Option.bind_eq_bind, Option.bind_eq_some_iff] at h
    obtain ⟨ks, hfront, -⟩ := h
    rcases section?_cases hfront with rfl | ⟨front', rest, rfl, hhex⟩ | ⟨-, hhex⟩
    · exact ⟨[], _, hcs, by simp⟩
    · exact ⟨front', rest ++ ':' :: ':' :: back, by rw [hcs]; simp, hhex⟩
    · exact ⟨front, _, hcs, hhex rfl⟩

/-- No text stands for addresses of both families. -/
theorem octets?_of_v6? (h : v6? cs = some gs) : octets? cs = none := by
  obtain ⟨front, rest, rfl, -⟩ := exists_colon_of_v6? h
  cases hq : octets? (front ++ ':' :: rest) with
  | none => rfl
  | some q => exact absurd (by simp) (colon_not_mem_octets hq)

theorem read?_eq_v4_iff {s : String} {a b c d : Nat} :
    read? s = some (.v4 a b c d) ↔ octets? s.toList = some (a, b, c, d) := by
  unfold read?
  cases octets? s.toList with
  | none => simp
  | some q => simp [Prod.ext_iff]

theorem read?_eq_v6_iff {s : String} : read? s = some (.v6 gs) ↔ v6? s.toList = some gs := by
  unfold read?
  cases hq : octets? s.toList with
  | none => simp
  | some q =>
    have hv6 : v6? s.toList ≠ some gs := fun h => by simp [octets?_of_v6? h] at hq
    simp [hv6]

/-- The standard form of an address is read as the address. -/
theorem read?_text {a : IpAddress} (h : a.WellFormed) : read? a.text = some a := by
  cases a with
  | v4 a b c d => exact read?_eq_v4_iff.2 (octets?_octetsText h)
  | v6 gs => exact read?_eq_v6_iff.2 (v6?_text h)

end IpAddress

end Listing
