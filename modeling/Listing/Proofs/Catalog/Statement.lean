import Listing.Catalog.Statement

/-!
# Statements are read back

`Statement.render` writes a statement as the text of a list query. If the names in it are plain, its
words show where each clause ends, and the statement is read back from them (`read?_render`); so no
other statement has its text (`render_injective`).
-/

set_option autoImplicit false

namespace Listing

/-- A name that no separator of a query text stands in. -/
def Plain (s : String) : Prop := ∀ c ∈ s.toList, c ≠ ' ' ∧ c ≠ ',' ∧ c ≠ '?'

instance (s : String) : Decidable (Plain s) :=
  decidable_of_iff ((s.toList.all fun c => c != ' ' && c != ',' && c != '?') = true)
    (by simp [Plain, and_assoc])

theorem Plain.count_eq_zero {s : String} (h : Plain s) : s.toList.count '?' = 0 :=
  List.count_eq_zero.2 fun hc => (h _ hc).2.2 rfl

namespace Condition

/-- The sign of a condition. -/
def sign : Condition → String
  | .like _ => "LIKE"
  | .compare _ op => op.symbol

/-- The text of a condition. -/
def render (c : Condition) : String := c.column ++ " " ++ (c.sign ++ " " ++ "?")

@[simp] theorem ofSign?_sign (c : Condition) : ofSign? c.column c.sign = some c := by
  cases c with
  | like column => rfl
  | compare column op => cases op <;> rfl

end Condition

/-- The text of a column to sort by. -/
def SortKey.render (k : SortKey) : String := k.column ++ " " ++ k.direction.text

/-- A keyword and what follows it with a separator between any two, nothing if nothing follows. -/
def phrase (keyword separator : String) : List String → String
  | [] => ""
  | part :: parts => keyword ++ separator.intercalate (part :: parts)

namespace Statement

/-- The text of a statement. -/
def render (st : Statement) : String :=
  "SELECT * FROM " ++ st.table
    ++ phrase " WHERE " " AND " (st.conditions.map Condition.render)
    ++ phrase " ORDER BY " ", " (st.orders.map SortKey.render)

theorem render_eq (st : Statement) : st.render = "SELECT * FROM " ++ st.table
    ++ phrase " WHERE " " AND " (st.conditions.map Condition.render)
    ++ phrase " ORDER BY " ", " (st.orders.map SortKey.render) := rfl

/-- All names of a statement are plain. -/
structure IsPlain (st : Statement) : Prop where
  table : Plain st.table
  conditions : ∀ c ∈ st.conditions, Plain c.column
  orders : ∀ k ∈ st.orders, Plain k.column

/-! ## Words -/

variable {s t : String} {c : Condition} {cs : List Condition} {k : SortKey} {ks : List SortKey}

theorem words_append (s t : String) : words (s ++ " " ++ t) = words s ++ words t := by
  have : (s ++ " " ++ t).toList = s.toList ++ ' ' :: t.toList := by simp
  rw [words, this, List.splitOn_append_cons_self, List.flatMap_append]
  rfl

theorem words_of_last (hs : ' ' ∉ s.toList) (hc : s.toList.getLast? ≠ some ',') :
    words s = [s] := by
  rw [words, List.splitOn_eq_singleton hs]
  simp [hc]

theorem words_comma (hs : ' ' ∉ s.toList) : words (s ++ ",") = [s, ","] := by
  have : ' ' ∉ (s ++ ",").toList := by simpa using hs
  rw [words, List.splitOn_eq_singleton this]
  simp

theorem words_plain (h : Plain s) : words s = [s] := by
  refine words_of_last (fun hc => (h _ hc).1 rfl) fun hlast => ?_
  exact (h _ (List.mem_of_getLast? hlast)).2.1 rfl

theorem plain_symbol (op : Filter.Operator) : Plain op.symbol := by
  cases op <;> decide

theorem plain_sign (c : Condition) : Plain c.sign := by
  cases c with
  | like column => exact (by decide : Plain "LIKE")
  | compare column op => exact plain_symbol op

theorem plain_direction (d : Direction) : Plain d.text := by
  cases d <;> decide

theorem words_condition (h : Plain c.column) : words c.render = [c.column, c.sign, "?"] := by
  rw [Condition.render, words_append, words_append, words_plain h, words_plain (plain_sign c)]
  rfl

theorem words_key (h : Plain k.column) : words k.render = [k.column, k.direction.text] := by
  rw [SortKey.render, words_append, words_plain h, words_plain (plain_direction _)]
  rfl

theorem words_key_comma (h : Plain k.column) :
    words (k.render ++ ",") = [k.column, k.direction.text, ","] := by
  have hd : ' ' ∉ k.direction.text.toList := fun hc => (plain_direction _ _ hc).1 rfl
  rw [SortKey.render, String.append_assoc, words_append, words_plain h, words_comma hd]
  rfl

/-- The words of conditions. -/
def conditionWords : List Condition → List String
  | [] => []
  | [c] => [c.column, c.sign, "?"]
  | c :: d :: cs => c.column :: c.sign :: "?" :: "AND" :: conditionWords (d :: cs)

/-- The words of columns to sort by. -/
def keyWords : List SortKey → List String
  | [] => []
  | [k] => [k.column, k.direction.text]
  | k :: l :: ks => k.column :: k.direction.text :: "," :: keyWords (l :: ks)

theorem words_conditions (hne : cs ≠ []) (h : ∀ c ∈ cs, Plain c.column) :
    words (" AND ".intercalate (cs.map Condition.render)) = conditionWords cs := by
  fun_induction conditionWords cs with
  | case1 => exact absurd rfl hne
  | case2 c => simpa using words_condition (h c (by simp))
  | case3 c d cs ih =>
    have hsplit : " AND ".intercalate ((c :: d :: cs).map Condition.render) = c.render ++ " " ++
        ("AND" ++ " " ++ " AND ".intercalate ((d :: cs).map Condition.render)) := by
      have : " AND " = " " ++ ("AND" ++ " ") := rfl
      rw [List.map_cons, List.map_cons, String.intercalate_cons_cons]
      simp only [this, String.append_assoc]
    have hwords := ih (by simp) fun c hc => h c (List.mem_cons_of_mem _ hc)
    rw [hsplit, words_append, words_append, hwords, words_condition (h c (by simp))]
    rfl

theorem words_keys (hne : ks ≠ []) (h : ∀ k ∈ ks, Plain k.column) :
    words (", ".intercalate (ks.map SortKey.render)) = keyWords ks := by
  fun_induction keyWords ks with
  | case1 => exact absurd rfl hne
  | case2 k => simpa using words_key (h k (by simp))
  | case3 k l ks ih =>
    have hsplit : ", ".intercalate ((k :: l :: ks).map SortKey.render) = k.render ++ "," ++ " " ++
        ", ".intercalate ((l :: ks).map SortKey.render) := by
      have : ", " = "," ++ " " := rfl
      rw [List.map_cons, List.map_cons, String.intercalate_cons_cons]
      simp only [this, String.append_assoc]
    have hwords := ih (by simp) fun k hk => h k (List.mem_cons_of_mem _ hk)
    rw [hsplit, words_append, hwords, words_key_comma (h k (by simp))]
    rfl

theorem words_where (s : String) (h : ∀ c ∈ cs, Plain c.column) :
    words (s ++ phrase " WHERE " " AND " (cs.map Condition.render))
      = words s ++ if cs = [] then [] else "WHERE" :: conditionWords cs := by
  cases cs with
  | nil => simp [phrase]
  | cons c cs =>
    have hsplit : ∀ t : String, s ++ (" WHERE " ++ t) = s ++ " " ++ ("WHERE" ++ " " ++ t) := by
      intro t
      have : " WHERE " = " " ++ ("WHERE" ++ " ") := rfl
      simp only [this, String.append_assoc]
    rw [if_neg (by simp), List.map_cons, phrase, hsplit, words_append, words_append,
      ← List.map_cons, words_conditions (by simp) h]
    rfl

theorem words_orderBy (s : String) (h : ∀ k ∈ ks, Plain k.column) :
    words (s ++ phrase " ORDER BY " ", " (ks.map SortKey.render))
      = words s ++ if ks = [] then [] else "ORDER" :: "BY" :: keyWords ks := by
  cases ks with
  | nil => simp [phrase]
  | cons k ks =>
    have hsplit : ∀ t : String,
        s ++ (" ORDER BY " ++ t) = s ++ " " ++ ("ORDER" ++ " " ++ ("BY" ++ " " ++ t)) := by
      intro t
      have : " ORDER BY " = " " ++ ("ORDER" ++ (" " ++ ("BY" ++ " "))) := rfl
      simp only [this, String.append_assoc]
    rw [if_neg (by simp), List.map_cons, phrase, hsplit, words_append, words_append, words_append,
      ← List.map_cons, words_keys (by simp) h]
    rfl

theorem words_select (h : Plain s) :
    words ("SELECT * FROM " ++ s) = ["SELECT", "*", "FROM", s] := by
  have hsplit : "SELECT * FROM " ++ s
      = "SELECT" ++ " " ++ ("*" ++ " " ++ ("FROM" ++ " " ++ s)) := by
    have : "SELECT * FROM " = "SELECT" ++ (" " ++ ("*" ++ (" " ++ ("FROM" ++ " ")))) := rfl
    simp only [this, String.append_assoc]
  rw [hsplit, words_append, words_append, words_append, words_plain h]
  rfl

/-- The words of a statement, clause by clause. -/
theorem words_render {st : Statement} (h : st.IsPlain) : words st.render =
    ["SELECT", "*", "FROM", st.table]
      ++ (if st.conditions = [] then [] else "WHERE" :: conditionWords st.conditions)
      ++ (if st.orders = [] then [] else "ORDER" :: "BY" :: keyWords st.orders) := by
  rw [render_eq, words_orderBy _ h.orders, words_where _ h.conditions, words_select h.table]

/-! ## Reading the words -/

/-- Conditions are read up to a word that does not go on with another one. -/
theorem readConditions_conditionWords {rest : List String} (hne : cs ≠ [])
    (hrest : rest.head? ≠ some "AND") :
    readConditions (conditionWords cs ++ rest) = some (cs, rest) := by
  fun_induction conditionWords cs with
  | case1 => exact absurd rfl hne
  | case2 c =>
    cases rest with
    | nil => simp [readConditions]
    | cons w rest =>
      have hw : w ≠ "AND" := by simpa using hrest
      simp [readConditions, hw]
  | case3 c d cs ih =>
    have hread := ih (by simp)
    simp [readConditions, hread]

theorem readKeys_keyWords (hne : ks ≠ []) : readKeys (keyWords ks) = some ks := by
  fun_induction keyWords ks with
  | case1 => exact absurd rfl hne
  | case2 k => simp [readKeys]
  | case3 k l ks ih => simp [readKeys, ih]

theorem readOrders_words (ks : List SortKey) :
    readOrders (if ks = [] then [] else "ORDER" :: "BY" :: keyWords ks) = some ks := by
  by_cases hne : ks = []
  · simp [hne, readOrders]
  · rw [if_neg hne]
    exact readKeys_keyWords hne

/-- A statement with plain names is read back from its text. -/
theorem read?_render {st : Statement} (h : st.IsPlain) : read? st.render = some st := by
  obtain ⟨table, conditions, orders⟩ := st
  have hread : readClauses ((if conditions = [] then [] else "WHERE" :: conditionWords conditions)
      ++ if orders = [] then [] else "ORDER" :: "BY" :: keyWords orders)
      = some (conditions, orders) := by
    have horders := readOrders_words orders
    by_cases hne : conditions = []
    · rw [if_pos hne, List.nil_append, readClauses]
      · simp [horders, hne]
      · split <;> simp
    · have hhead : (if orders = [] then [] else "ORDER" :: "BY" :: keyWords orders).head?
          ≠ some "AND" := by split <;> simp
      rw [if_neg hne, List.cons_append, readClauses, readConditions_conditionWords hne hhead]
      simp [horders]
  rw [read?, words_render h]
  simp only [List.cons_append, List.nil_append]
  rw [hread]
  rfl

/-- Statements with plain names are told apart by their texts. -/
theorem render_injective {st st' : Statement} (h : st.IsPlain) (h' : st'.IsPlain)
    (heq : st.render = st'.render) : st = st' := by
  have := read?_render h
  rw [heq, read?_render h'] at this
  exact (Option.some.inj this).symm

/-! ## Placeholders -/

theorem count_intercalate {sep : String} {parts : List String} {n : Nat}
    (hsep : sep.toList.count '?' = 0) (h : ∀ p ∈ parts, p.toList.count '?' = n) :
    (sep.intercalate parts).toList.count '?' = parts.length * n := by
  induction parts with
  | nil => simp
  | cons p parts ih =>
    have hp := h p (by simp)
    have ih := ih fun p hp => h p (List.mem_cons_of_mem _ hp)
    cases parts with
    | nil => simpa using hp
    | cons p' parts =>
      rw [String.intercalate_cons_cons]
      simp only [String.toList_append, List.count_append, hp, hsep, ih, List.length_cons]
      rw [Nat.succ_mul (parts.length + 1) n, Nat.add_zero, Nat.add_comm]

theorem count_condition (h : Plain c.column) : c.render.toList.count '?' = 1 := by
  have hsign := (plain_sign c).count_eq_zero
  simp [Condition.render, h.count_eq_zero, hsign]

theorem count_key (h : Plain k.column) : k.render.toList.count '?' = 0 := by
  have hdirection := (plain_direction k.direction).count_eq_zero
  simp [SortKey.render, h.count_eq_zero, hdirection]

theorem count_phrase {keyword sep : String} {parts : List String} {n : Nat}
    (hkeyword : keyword.toList.count '?' = 0) (hsep : sep.toList.count '?' = 0)
    (h : ∀ p ∈ parts, p.toList.count '?' = n) :
    (phrase keyword sep parts).toList.count '?' = parts.length * n := by
  cases parts with
  | nil => simp [phrase]
  | cons p parts =>
    rw [phrase, String.toList_append, List.count_append, hkeyword, count_intercalate hsep h,
      Nat.zero_add]

/-- A statement has a placeholder for each condition and no other. -/
theorem count_render {st : Statement} (h : st.IsPlain) :
    st.render.toList.count '?' = st.conditions.length := by
  have hselect : "SELECT * FROM ".toList.count '?' = 0 := by decide
  have hconditions : ∀ p ∈ st.conditions.map Condition.render, p.toList.count '?' = 1 := by
    simpa using fun c hc => count_condition (h.conditions c hc)
  have horders : ∀ p ∈ st.orders.map SortKey.render, p.toList.count '?' = 0 := by
    simpa using fun k hk => count_key (h.orders k hk)
  rw [render_eq, String.toList_append, List.count_append, String.toList_append, List.count_append,
    String.toList_append, List.count_append, hselect, h.table.count_eq_zero,
    count_phrase (by decide) (by decide) hconditions, count_phrase (by decide) (by decide) horders]
  simp

end Statement

end Listing
