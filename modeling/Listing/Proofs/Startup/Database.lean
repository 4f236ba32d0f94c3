import Listing.Startup.Database
import Mathlib.Data.List.Basic

/-!
# How many connections a database gets

A connection is limited by the text of its address: where `:memory:` stands in it there is one
connection and no directory is made (`open_of_mentions`), and otherwise there are as many as were
asked for (`open_of_not_mentions`). The address may ask for something else: a database in memory by
a mode or by a name that is encoded, or a file with such a name on its path. `connect_limited_iff`
says when the limit is right for what the address asks for, as it is not always
(`mode_not_limited`).
-/

set_option autoImplicit false

namespace Listing

namespace DatabaseUrl

variable {address : String} {inner cs : List Char}

/-- The address asks for a database in memory, by its file name or by its mode, unless a file name
of the form `file:path` gives another mode. -/
def AsksMemory (u : DatabaseUrl) : Prop :=
  (u.memory = true ∧ ∀ o, Opening.ofUrl u = .ok o → o.memory = true) ∨ u.fileName = memoryName

/-- The name of a database in memory stands somewhere in an address. -/
def Mentions (address : String) : Prop := ∃ front back, address = front ++ memoryName ++ back

/-- The file name of an address as it is written, before anything in it is decoded. -/
def writtenName (address : String) : List Char := (withoutScheme address).takeWhile (· != '?')

theorem holds_iff_infix : holds inner cs = true ↔ inner <:+: cs := by
  induction cs with
  | nil => simp [holds]
  | cons c cs ih => simp [holds, ih, List.infix_cons_iff]

theorem mentionsMemory_iff : mentionsMemory address = true ↔ Mentions address := by
  rw [mentionsMemory, holds_iff_infix]
  constructor
  · rintro ⟨front, back, h⟩
    exact ⟨.ofList front, .ofList back, String.toList_injective (by simp [← h])⟩
  · rintro ⟨front, back, rfl⟩
    exact ⟨front.toList, back.toList, by simp⟩

theorem dropAll_suffix (word cs : List Char) : dropAll word cs <:+ cs := by
  fun_induction dropAll word cs with
  | case1 cs _ ih => exact ih.trans (List.drop_suffix _ _)
  | case2 cs _ => exact List.suffix_rfl

/-- An address that spells out the name as its file name mentions it. -/
theorem mentions_of_writtenName (h : writtenName address = memoryName.toList) :
    Mentions address := by
  rw [← mentionsMemory_iff, mentionsMemory, holds_iff_infix, ← h]
  have hname : writtenName address <:+: withoutScheme address := (List.takeWhile_prefix _).isInfix
  have hscheme : withoutScheme address <:+: address.toList :=
    ((dropAll_suffix _ _).trans (dropAll_suffix _ _)).isInfix
  exact hname.trans hscheme

/-! ## File names -/

/-- A parameter does not change the file name. -/
theorem fileName_setParameter {u u' : DatabaseUrl} {p : String × String}
    (h : setParameter u p = .ok u') : u'.fileName = u.fileName := by
  unfold setParameter at h
  grind

theorem fileName_foldlM {u u' : DatabaseUrl} {ps : List (String × String)}
    (h : ps.foldlM setParameter u = .ok u') : u'.fileName = u.fileName := by
  induction ps generalizing u with
  | nil =>
    cases h
    rfl
  | cons p ps ih =>
    rw [List.foldlM_cons] at h
    cases hp : setParameter u p with
    | error f =>
      rw [hp] at h
      cases h
    | ok v =>
      rw [hp] at h
      exact (ih h).trans (fileName_setParameter hp)

theorem fileName_of_writtenName {u : DatabaseUrl} (h : writtenName address = memoryName.toList)
    (hu : parse address = .ok u) : u.fileName = memoryName := by
  unfold parse at hu
  have hname : ofName (writtenName address) = .ok ⟨memoryName, true, false, false, none⟩ := by
    rw [h, ofName, if_pos rfl]
  change (ofName (writtenName address) >>= _) = _ at hu
  rw [hname] at hu
  exact fileName_foldlM hu

end DatabaseUrl

namespace Database

open DatabaseUrl

variable {t t' : FileTree} {address : String} {u : DatabaseUrl} {max : Nat} {o : Opened}
  {d : Database}

/-- The database is kept in a file. -/
def InFile (d : Database) : Prop := ∃ names, d.storage = .file names

/-- What is promised of a connection: to a database in memory there is one, and it leaves no trace
among the files; to a file there are as many as were asked for. -/
structure Limited (u : DatabaseUrl) (max : Nat) (t t' : FileTree) (d : Database) : Prop where
  memory : u.AsksMemory → d.maxConnections = 1 ∧ t' = t
  file : d.InFile → d.maxConnections = max

/-! ## Opening -/

/-- The file name that stands for a database in memory is read as it is, whatever the driver. -/
theorem path_of_memoryName {o : Opening} (h : u.fileName = memoryName)
    (hopening : Opening.ofUrl u = .ok o) : o.path = memoryName := by
  unfold Opening.ofUrl at hopening
  dsimp only at hopening
  rw [h] at hopening
  split at hopening
  · cases hopening
    rfl
  · cases hopening
    rfl

/-- What is asked to be in memory is not looked for among the files. -/
theorem openDatabase_of_asksMemory (hu : u.AsksMemory) (h : openDatabase t u = (t', .ok o)) :
    t' = t := by
  unfold openDatabase at h
  cases hopening : Opening.ofUrl u with
  | error e =>
    rw [hopening] at h
    cases h
  | ok opening =>
    rw [hopening] at h
    dsimp only at h
    split at h
    · cases h
    · have hmemory : opening.memory || opening.path = memoryName := by
        obtain ⟨-, hmode⟩ | hname := hu
        · simp [hmode opening hopening]
        · simp [path_of_memoryName hname hopening]
      rw [if_pos hmemory] at h
      cases h
      rfl

theorem openAll_eq_ok (h : openAll t u max = (t', .ok d)) :
    openDatabase t u = (t', .ok d.toOpened) ∧ d.maxConnections = max := by
  unfold openAll Machine.standard at h
  split at h
  · cases h
  · dsimp only at h
    cases hopen : openDatabase t u with
    | mk tree opened =>
      rw [hopen] at h
      cases opened with
      | error f => cases h
      | ok o =>
        cases h
        exact ⟨rfl, rfl⟩

theorem eq_ok_of_mapError {ε ε' α : Type} {f : ε → ε'} {opened : FileTree × Except ε α} {a : α}
    (h : (opened.1, opened.2.mapError f) = (t', .ok a)) : opened = (t', .ok a) := by
  obtain ⟨tree, _ | _⟩ := opened <;> cases h
  rfl

/-- Where its address mentions the name of a database in memory a database is opened as it is, with
one connection. -/
theorem open_of_mentions (hurl : parse address = .ok u) (h : connect t address max = (t', .ok d))
    (hm : Mentions address) : openDatabase t u = (t', .ok d.toOpened) ∧ d.maxConnections = 1 := by
  unfold connect at h
  rw [hurl, mentionsMemory_iff.2 hm] at h
  exact openAll_eq_ok (eq_ok_of_mapError h)

/-- Elsewhere the directory that the file name leads into is made before the database is opened. -/
theorem connect_of_not_mentions (m : Machine) (hurl : parse address = .ok u)
    (hm : ¬ Mentions address) : connect t address max m =
      match makeParent t u.fileName m with
      | (t, .error f) => (t, .error f)
      | (t, .ok ()) => ((openAll t u max m).1, (openAll t u max m).2.mapError .opening) := by
  unfold connect
  rw [hurl, Bool.eq_false_iff.2 (mt mentionsMemory_iff.1 hm)]
  rfl

/-- The directory is made with whatever mode, and there are as many connections as were asked
for. -/
theorem open_of_not_mentions (hurl : parse address = .ok u)
    (h : connect t address max = (t', .ok d)) (hm : ¬ Mentions address) :
    openDatabase (makeParent t u.fileName).1 u = (t', .ok d.toOpened) ∧ d.maxConnections = max := by
  rw [connect_of_not_mentions .standard hurl hm] at h
  split at h
  · cases h
  · rename_i tree hmade
    rw [hmade]
    exact openAll_eq_ok (eq_ok_of_mapError h)

/-! ## Limits -/

/-- A connection to what an address asks for is limited as promised just if its address mentions the
name of a database in memory where it asks for one, and does not where it opens a file. It makes no
difference where one connection is asked for, and for a database in memory no directory made. An
address that spells out the name as its file name is limited as promised. -/
theorem connect_limited_iff (hurl : parse address = .ok u)
    (h : connect t address max = (t', .ok d)) :
    (Limited u max t t' d ↔
      (u.AsksMemory → Mentions address ∨ max = 1 ∧ (makeParent t u.fileName).1 = t) ∧
      (d.InFile → Mentions address → max = 1)) ∧
    (writtenName address = memoryName.toList → u.AsksMemory ∧ d.maxConnections = 1 ∧ t' = t) := by
  constructor
  · by_cases hm : Mentions address
    · obtain ⟨hopen, hmax⟩ := open_of_mentions hurl h hm
      constructor
      · intro hl
        exact ⟨fun _ => .inl hm, fun hfile _ => (hl.file hfile).symm.trans hmax⟩
      · intro hr
        exact ⟨fun hu => ⟨hmax, openDatabase_of_asksMemory hu hopen⟩,
          fun hfile => hmax.trans (hr.2 hfile hm).symm⟩
    · obtain ⟨hopen, hmax⟩ := open_of_not_mentions hurl h hm
      constructor
      · intro hl
        refine ⟨fun hu => .inr ?_, fun _ hm' => absurd hm' hm⟩
        obtain ⟨hone, htree⟩ := hl.memory hu
        exact ⟨hmax.symm.trans hone, (openDatabase_of_asksMemory hu hopen).symm.trans htree⟩
      · intro hr
        refine ⟨fun hu => ?_, fun _ => hmax⟩
        obtain ⟨hone, htree⟩ := (hr.1 hu).resolve_left hm
        exact ⟨hmax.trans hone, (openDatabase_of_asksMemory hu hopen).trans htree⟩
  · intro hname
    have hu : u.AsksMemory := .inr (fileName_of_writtenName hname hurl)
    obtain ⟨hopen, hmax⟩ := open_of_mentions hurl h (mentions_of_writtenName hname)
    exact ⟨hu, hmax, openDatabase_of_asksMemory hu hopen⟩

/-- An empty directory to work in. -/
def emptyTree : FileTree := ⟨["tmp"], [(["tmp"], .directory)]⟩

/-- A file whose name has the name of a database in memory in it, written so that the address has
not. -/
theorem connect_limited_iff_escaped : ∃ u t' d, parse "sqlite:a%3Amemory:b.db" = .ok u ∧
    connect emptyTree "sqlite:a%3Amemory:b.db" 6 = (t', .ok d) ∧ d.InFile ∧
    Limited u 6 emptyTree t' d := by
  have hurl : parse "sqlite:a%3Amemory:b.db" =
      .ok ⟨"a:memory:b.db", false, false, false, none⟩ := by
    decide +kernel
  have hconnect : connect emptyTree "sqlite:a%3Amemory:b.db" 6 =
      (emptyTree.add ["tmp", "a:memory:b.db"] .file,
        .ok ⟨⟨.file ["tmp", "a:memory:b.db"], false⟩, 6⟩) := by
    decide +kernel
  have hmemory : ¬ AsksMemory ⟨"a:memory:b.db", false, false, false, none⟩ := by
    rintro (⟨hmode, -⟩ | hname)
    · cases hmode
    · revert hname
      decide
  have hmentions : ¬ Mentions "sqlite:a%3Amemory:b.db" := by
    rw [← mentionsMemory_iff]
    decide
  exact ⟨_, _, _, hurl, hconnect, ⟨_, rfl⟩, (connect_limited_iff hurl hconnect).1.2
    ⟨fun hu => absurd hu hmemory, fun _ hm => absurd hm hmentions⟩⟩

/-- A database that is in memory by its mode is not limited to one connection, and the directory of
its file name is made; a file that has `:memory:` in its name is limited to one. -/
theorem mode_not_limited :
    (∃ u t' d, parse "sqlite:dir/x.db?mode=memory" = .ok u ∧ u.AsksMemory ∧
      connect emptyTree "sqlite:dir/x.db?mode=memory" 7 = (t', .ok d) ∧ d.maxConnections = 7 ∧
      t' = emptyTree.add ["tmp", "dir"] .directory) ∧
    ∃ t' d, connect emptyTree "sqlite://a:memory:b.db" 6 = (t', .ok d) ∧ d.InFile ∧
      d.maxConnections = 1 := by
  have hopening : Opening.ofUrl ⟨"dir/x.db", true, false, false, none⟩ =
      .ok ⟨"dir/x.db", "unix", true, false, true, false⟩ := by
    decide +kernel
  have hmemory : AsksMemory ⟨"dir/x.db", true, false, false, none⟩ := by
    refine .inl ⟨rfl, fun o ho => ?_⟩
    cases hopening.symm.trans ho
    rfl
  refine ⟨⟨⟨"dir/x.db", true, false, false, none⟩, _, ⟨⟨.memory, false⟩, 7⟩, ?_, hmemory,
    ?_, rfl, rfl⟩,
    emptyTree.add ["tmp", "a:memory:b.db"] .file, ⟨⟨.file ["tmp", "a:memory:b.db"], false⟩, 1⟩,
    ?_, ⟨_, rfl⟩, rfl⟩
  · decide +kernel
  · decide +kernel
  · decide +kernel

end Database

end Listing
