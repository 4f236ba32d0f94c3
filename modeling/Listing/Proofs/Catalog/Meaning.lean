import Listing.Catalog.Rows
import Listing.Proofs.Catalog.Like
import Listing.Proofs.Catalog.Order
import Listing.Proofs.Filter.Language
import Listing.Proofs.Query.Clauses
import Listing.Proofs.Request
import Listing.Proofs.SortOrder

/-!
# What a list request means

`Meets x row`: the row satisfies the filter `x`. `Ordered x earlier r s`: the sort order `x` puts
`r` in front of `s`, rows that it does not tell apart standing as `earlier` has them. Both are said
by the text of the request and the columns of the rows alone. A request that compiles selects just
the rows that meet its filter, in its order (`select_isAnswer`).
-/

set_option autoImplicit false

namespace Listing

open Text Listing.Filter

/-! ## Meaning -/

/-- The value is one of the type. -/
inductive Value.IsOf : Value → FieldType → Prop
  | text (s : String) : IsOf (.text s) .string
  | integer (n : Int) : IsOf (.integer n) .integer
  | float (x : Number.Binary64) : IsOf (.float x) .float

/-- A value stands to another as the word of an operator says. -/
def Value.Stands (v w : Value) (o : String) : Prop :=
  (o = "lt" ∧ v.Less w) ∨ (o = "le" ∧ (v.Less w ∨ v.Same w)) ∨ (o = "gt" ∧ w.Less v) ∨
    (o = "ge" ∧ (w.Less v ∨ v.Same w)) ∨ (o = "eq" ∧ v.Same w)

section
variable {α : Type} [Record α]

/-- The row satisfies the filter: any row if there is none, a row whose text has the value in it up
to ASCII case, or a row whose number stands to the one denoted as the operator says. -/
inductive Meets (x : String) (row : α) : Prop
  | all : x = "" → Meets x row
  | contains {f v s : String} {d : Schema.Field} : x = f ++ "." ++ v → Segment f → Segment v →
      (Record.schema α).Declares f d → Record.cell? row d.name = some (.text s) → Like.Within v s →
      Meets x row
  | compare {f o v : String} {d : Schema.Field} {w n : Value} : x = f ++ "." ++ o ++ "." ++ v →
      Segment f → Segment v → (Record.schema α).Declares f d → Record.cell? row d.name = some w →
      d.type.Denotes v n → w.Stands n o → Meets x row

/-- The sort order puts the first row in front of the second. -/
inductive Ordered (x : String) (earlier : α → α → Prop) (r s : α) : Prop
  | unsorted : x = "" → earlier r s → Ordered x earlier r s
  | asc {f : String} {d : Schema.Field} {v w : Value} : x = f ++ "." ++ "asc" → Segment f →
      (Record.schema α).Declares f d → Record.cell? r d.name = some v →
      Record.cell? s d.name = some w → v.Less w → Ordered x earlier r s
  | desc {f : String} {d : Schema.Field} {v w : Value} : x = f ++ "." ++ "desc" → Segment f →
      (Record.schema α).Declares f d → Record.cell? r d.name = some v →
      Record.cell? s d.name = some w → w.Less v → Ordered x earlier r s
  | tie {f word : String} {d : Schema.Field} {v w : Value} : x = f ++ "." ++ word →
      word ∈ ["asc", "desc"] → Segment f → (Record.schema α).Declares f d →
      Record.cell? r d.name = some v → Record.cell? s d.name = some w → v.Same w → earlier r s →
      Ordered x earlier r s

/-- The rows found are just those stored that satisfy the filter, each once, in the order asked
for. -/
structure IsAnswer (r : ListRequest) (earlier : α → α → Prop) (stored found : List α) : Prop where
  nodup : found.Nodup
  mem_iff : ∀ row, row ∈ found ↔ row ∈ stored ∧ Meets r.filterBy row
  ordered : found.Pairwise (Ordered r.sortBy earlier)

end

/-- The names of a record's schema are plain and distinct. Every scalar field has a column, and what
a row has in a column is of the type of the field. -/
class Record.Typed (α : Type) [Record α] : Prop where
  entity_plain : Plain (Record.schema α).entity
  fields_plain : ∀ d ∈ (Record.schema α).fields, Plain d.name
  distinct : Schema.Distinct (Record.schema α).fields
  column : ∀ d ∈ (Record.schema α).fields, d.type.isScalar = true → d.name ∈ Record.names α
  typed : ∀ (row : α) (v : Value), ∀ d ∈ (Record.schema α).fields,
    Record.cell? row d.name = some v → v.IsOf d.type

/-- A row has a value in every column of its table. -/
theorem Record.exists_cell {α : Type} [Record α] {column : String} (row : α)
    (h : column ∈ Record.names α) : ∃ v, Record.cell? row column = some v := by
  rw [← Record.columns_names row] at h
  obtain ⟨pair, hmem, rfl⟩ := List.mem_map.1 h
  rw [← Option.isSome_iff_exists, Record.cell?, List.lookup_isSome_iff]
  exact ⟨pair, hmem, beq_self_eq_true _⟩

theorem Record.Typed.cell {α : Type} [Record α] [Record.Typed α] (row : α) (d : Schema.Field)
    (hd : d ∈ (Record.schema α).fields) (hscalar : d.type ≠ .other) :
    ∃ v, Record.cell? row d.name = some v ∧ v.IsOf d.type := by
  have hcolumn := Record.Typed.column d hd (by simpa [FieldType.isScalar] using hscalar)
  obtain ⟨v, hv⟩ := Record.exists_cell row hcolumn
  exact ⟨v, hv, Record.Typed.typed row v d hd hv⟩

/-! ## Values -/

variable {v w n : Value} {t : FieldType}

theorem Value.IsOf.sameKind (hv : v.IsOf t) (hw : w.IsOf t) : v.sameKind w = true := by
  cases hv <;> cases hw <;> rfl

theorem FieldType.Denotes.isOf {s : String} (h : t.Denotes s n) : n.IsOf t := by
  cases h with
  | integer => exact .integer _
  | float => exact .float _

theorem stands_token_iff (h : v.sameKind w = true) (op : Operator) :
    op.holds (v.order w) = true ↔ v.Stands w op.token := by
  have hkind : w.sameKind v = true := by
    cases v <;> cases w <;> first | rfl | cases h
  have hgt : v.order w = .gt ↔ w.Less v := by
    rw [← Value.order_eq_lt_iff hkind, Value.order_swap v w]
    cases w.order v <;> simp
  rw [Value.Stands, ← hgt, ← Value.order_eq_lt_iff h, ← Value.order_eq_eq_iff h]
  cases op <;> cases v.order w <;> simp [Operator.holds, Operator.token]

theorem token_of_stands {o : String} (h : v.Stands w o) : ∃ op : Operator, op.token = o := by
  rcases h with ⟨rfl, -⟩ | ⟨rfl, -⟩ | ⟨rfl, -⟩ | ⟨rfl, -⟩ | ⟨rfl, -⟩
  exacts [⟨.lt, rfl⟩, ⟨.le, rfl⟩, ⟨.gt, rfl⟩, ⟨.ge, rfl⟩, ⟨.eq, rfl⟩]

/-! ## Filters -/

variable {α : Type} [Record α] {x f v' o : String} {d : Schema.Field} {row : α}

theorem meets_empty (row : α) : Meets "" row := .all rfl

/-- What a filter of two segments asks. -/
theorem meets_contains_iff (hdistinct : Schema.Distinct (Record.schema α).fields) {s : String}
    (hc : Cut x [f, v']) (hf : Segment f) (hv : Segment v') (hd : (Record.schema α).Declares f d)
    (hcell : Record.cell? row d.name = some (.text s)) : Meets x row ↔ Like.Within v' s := by
  refine ⟨fun h => ?_, fun h => ?_⟩
  · cases h with
    | all hx =>
      subst hx
      cases hc.unique cut_empty
    | contains hx' hf' hv' hd' hcell' hwithin =>
      cases hc.unique (cut_two_iff.2 ⟨hf'.dotFree, hv'.dotFree, hx'⟩)
      cases hd.unique hdistinct hd'
      cases hcell.symm.trans hcell'
      exact hwithin
    | compare hx' hf' hv' hd' hcell' hdenotes hstands =>
      obtain ⟨op, rfl⟩ := token_of_stands hstands
      cases hc.unique (cut_three_iff.2 ⟨hf'.dotFree, token_dotFree op, hv'.dotFree, hx'⟩)
  · exact .contains (cut_two_iff.1 hc).2.2 hf hv hd hcell h

/-- What a filter of three segments asks. -/
theorem meets_compare_iff (hdistinct : Schema.Distinct (Record.schema α).fields) {op : Operator}
    (hc : Cut x [f, op.token, v']) (hf : Segment f) (hv : Segment v')
    (hd : (Record.schema α).Declares f d) (hcell : Record.cell? row d.name = some w)
    (hn : d.type.Denotes v' n) : Meets x row ↔ w.Stands n op.token := by
  refine ⟨fun h => ?_, fun h => ?_⟩
  · cases h with
    | all hx =>
      subst hx
      cases hc.unique cut_empty
    | contains hx' hf' hv' => cases hc.unique (cut_two_iff.2 ⟨hf'.dotFree, hv'.dotFree, hx'⟩)
    | compare hx' hf' hv' hd' hcell' hdenotes hstands =>
      obtain ⟨op', rfl⟩ := token_of_stands hstands
      have hsegs := hc.unique (cut_three_iff.2 ⟨hf'.dotFree, token_dotFree op', hv'.dotFree, hx'⟩)
      simp only [List.cons.injEq, and_true] at hsegs
      obtain ⟨rfl, hop, rfl⟩ := hsegs
      cases hd.unique hdistinct hd'
      cases hcell.symm.trans hcell'
      rw [hop]
      rwa [(denotes_iff.1 hn).2.2.symm.trans (denotes_iff.1 hdenotes).2.2]
  · exact .compare (cut_three_iff.1 hc).2.2.2 hf hv hd hcell hn h

/-- A row meets the condition of a compiled filter iff it satisfies the filter. -/
theorem holds_iff [Record.Typed α] {p : Predicate} (h : Accepted (Record.schema α) x p) (row : α) :
    p.condition.holds p.value row = true ↔ Meets x row := by
  have hdistinct := Record.Typed.distinct (α := α)
  cases h with
  | @contains f v d hx hf hv hd ht hl hfield hfragment hbound =>
    obtain rfl : p = ⟨d, .contains, v⟩ := Predicate.eq_of_shown hfield hfragment hbound
    obtain ⟨w, hcell, hw⟩ := Record.Typed.cell row d hd.1 (by simp [ht])
    rw [ht] at hw hl
    cases hw with
    | text s =>
      have hc := cut_two_iff.2 ⟨hf.dotFree, hv.dotFree, hx⟩
      rw [meets_contains_iff hdistinct hc hf hv hd hcell, ← Like.like_around_iff hl]
      simp [Predicate.condition, Predicate.value, Predicate.boundText, Condition.holds, hcell, ht,
        Value.ofText]
  | @compare f o sign v d hx hf ho hv hd ht hl hfield hfragment hbound =>
    obtain ⟨op, rfl, rfl⟩ := mem_symbols_iff.1 ho
    obtain rfl : p = ⟨d, .compare op, v⟩ := Predicate.eq_of_shown hfield hfragment hbound
    obtain ⟨w, hcell, hw⟩ := Record.Typed.cell row d hd.1 (by rcases ht with ht | ht <;> simp [ht])
    have hn : d.type.Denotes v (Value.ofText d.type v) := denotes_iff.2 ⟨ht, accepts_iff.2 hl, rfl⟩
    have hkind := hw.sameKind hn.isOf
    have hc := cut_compare hf ho hv hx
    rw [meets_compare_iff hdistinct hc hf hv hd hcell hn, ← stands_token_iff hkind]
    simp [Predicate.condition, Predicate.value, Predicate.boundText, Condition.holds, hcell, hkind]

/-! ## Orders -/

theorem isColumn_key [Record.Typed α] {order : SortOrder}
    (hd : order.field ∈ (Record.schema α).fields)
    (hscalar : order.field.type.isScalar = true) : order.key.IsColumn α := by
  have hne : order.field.type ≠ .other := by
    intro ht
    simp [FieldType.isScalar, ht] at hscalar
  refine ⟨fun r => (Record.cell? r order.field.name).getD (.integer 0), fun r => ?_, fun r s => ?_⟩
  · obtain ⟨v, hv, -⟩ := Record.Typed.cell r _ hd hne
    simp [SortOrder.key, hv]
  · obtain ⟨v, hv, hvt⟩ := Record.Typed.cell r _ hd hne
    obtain ⟨w, hw, hwt⟩ := Record.Typed.cell s _ hd hne
    simpa [hv, hw] using hvt.sameKind hwt

/-- A compiled order puts the first of two rows in front if it may stand there, and if, where the
second might as well, the first came earlier. -/
theorem ordered_of_inOrder [Record.Typed α] {order : SortOrder} {earlier : α → α → Prop} {r s : α}
    (h : SortOrder.compile (Record.schema α) x = .ok (some order))
    (hle : Statement.inOrder [order.key] r s = true)
    (hearlier : Statement.inOrder [order.key] s r = true → earlier r s) :
    Ordered x earlier r s := by
  obtain ⟨f, hc, hf, hd, hscalar⟩ := SortOrder.compile_eq_some_iff.1 h
  have hdeclares := Schema.declares_of_resolve hd
  have hseg : Segment f := ⟨hf, hc.dotFree f (by simp)⟩
  have hx := (cut_two_iff.1 hc).2.2
  have hne : order.field.type ≠ .other := by
    intro ht
    simp [FieldType.isScalar, ht] at hscalar
  obtain ⟨v, hv, hvt⟩ := Record.Typed.cell r _ hdeclares.1 hne
  obtain ⟨w, hw, hwt⟩ := Record.Typed.cell s _ hdeclares.1 hne
  obtain ⟨d, direction⟩ := order
  have hword : direction.text ∈ ["asc", "desc"] := by cases direction <;> decide
  simp only [inOrder_singleton, SortKey.compareRows, SortOrder.key, hv, hw] at hle hearlier
  cases direction with
  | asc =>
    cases horder : v.order w with
    | lt => exact .asc hx hseg hdeclares hv hw ((Value.order_eq_lt_iff (hvt.sameKind hwt)).1 horder)
    | eq =>
      have hsame := (Value.order_eq_eq_iff (hvt.sameKind hwt)).1 horder
      have hback : (w.order v).isLE = true := by simp [Value.order_swap w, horder]
      exact .tie hx hword hseg hdeclares hv hw hsame (hearlier hback)
    | gt => simp [horder] at hle
  | desc =>
    cases horder : w.order v with
    | lt =>
      exact .desc hx hseg hdeclares hv hw ((Value.order_eq_lt_iff (hwt.sameKind hvt)).1 horder)
    | eq =>
      have hback : v.order w = .eq := by simp [Value.order_swap v, horder]
      have hsame := (Value.order_eq_eq_iff (hvt.sameKind hwt)).1 hback
      exact .tie hx hword hseg hdeclares hv hw hsame (hearlier (by simp [hback]))
    | gt => simp [horder] at hle

/-- Rows that are sorted by a compiled order stand as it says. -/
theorem ordered_mergeSort [Record.Typed α] {order : Option SortOrder} {rows : List α}
    {earlier : α → α → Prop} (h : SortOrder.compile (Record.schema α) x = .ok order)
    (hrows : rows.Nodup) (hearlier : rows.Pairwise earlier) :
    (rows.mergeSort (Statement.inOrder (order.map (·.key)).toList)).Pairwise
      (Ordered x earlier) := by
  rw [List.pairwise_iff_forall_sublist]
  intro r s hrs
  have hbefore : [r, s].Sublist rows → earlier r s := fun hsub => by
    simpa using hearlier.sublist hsub
  cases order with
  | none =>
    obtain rfl := SortOrder.compile_eq_none_iff.1 h
    obtain ⟨-, hstable⟩ := pair_of_sorted (fun _ _ _ _ _ => rfl) (fun _ _ => rfl) hrows hrs
    exact .unsorted rfl (hbefore (hstable rfl))
  | some order =>
    obtain ⟨f, -, -, hd, hscalar⟩ := SortOrder.compile_eq_some_iff.1 h
    have hcolumn : order.key.IsColumn α := isColumn_key (Schema.mem_of_resolve hd) hscalar
    have htrans : ∀ a b c : α, Statement.inOrder [order.key] a b →
        Statement.inOrder [order.key] b c → Statement.inOrder [order.key] a c :=
      fun _ _ _ => inOrder_trans hcolumn
    obtain ⟨hle, hstable⟩ := pair_of_sorted htrans (inOrder_total hcolumn) hrows hrs
    exact ordered_of_inOrder h hle fun hback => hbefore (hstable hback)

/-! ## Requests -/

section
variable [Record.Typed α] {r : ListRequest} {plan : Plan}

/-- The pattern of a plan, if it has one, is not longer than allowed. -/
def Plan.PatternFits (plan : Plan) : Prop :=
  ∀ p, plan.predicate = some p → p.test = .contains → p.boundText.utf8ByteSize ≤ Like.maxBytes

theorem isPlain_statement (h : (ListRequest.compile (Record.schema α) r).2 = .ok plan) :
    (plan.statement (Record.schema α)).IsPlain := by
  obtain ⟨hp, ho⟩ := ListRequest.compile_eq_ok_iff.1 h
  refine ⟨Record.Typed.entity_plain, fun c hc => ?_, fun k hk => ?_⟩
  · cases hpred : plan.predicate with
    | none => simp [Plan.statement, hpred] at hc
    | some p =>
      obtain rfl : c = p.condition := by simpa [Plan.statement, hpred] using hc
      exact plain_of_compile Record.Typed.fields_plain (hpred ▸ hp)
  · cases hord : plan.order with
    | none => simp [Plan.statement, hord] at hk
    | some o =>
      obtain rfl : k = o.key := by simpa [Plan.statement, hord] using hk
      exact SortOrder.plain_of_compile Record.Typed.fields_plain (hord ▸ ho)

/-- A row meets the conditions of a plan iff it satisfies the filter. -/
theorem meets_plan_iff (h : (ListRequest.compile (Record.schema α) r).2 = .ok plan) (row : α) :
    Statement.meets (plan.predicate.map (·.condition)).toList
      (plan.predicate.map (·.value)).toList row
      = true ↔ Meets r.filterBy row := by
  obtain ⟨hp, -⟩ := ListRequest.compile_eq_ok_iff.1 h
  cases hpred : plan.predicate with
  | none =>
    rw [hpred] at hp
    rw [Filter.compile_eq_none_iff.1 hp]
    exact iff_of_true rfl (meets_empty row)
  | some p =>
    rw [hpred, compile_eq_ok_some_iff Record.Typed.distinct] at hp
    rw [← holds_iff hp row]
    simp [Statement.meets]

omit [Record.Typed α] in
/-- The pattern of a plan is too long iff it does not fit. -/
theorem tooLong_iff (h : (ListRequest.compile (Record.schema α) r).2 = .ok plan) :
    (plan.statement (Record.schema α)).tooLong (plan.predicate.map (·.value)).toList = true ↔
      ¬ plan.PatternFits := by
  obtain ⟨hp, -⟩ := ListRequest.compile_eq_ok_iff.1 h
  cases hpred : plan.predicate with
  | none => simp [Statement.tooLong, Plan.statement, Plan.PatternFits, hpred]
  | some p =>
    have hfit := Predicate.Fits.of_compile (hpred ▸ hp)
    have hlong : p.condition.tooLong p.value = true ↔
        p.test = .contains ∧ Like.maxBytes < p.boundText.utf8ByteSize := by
      obtain ⟨d, test, literal⟩ := p
      cases test with
      | contains =>
        have ht : d.type = .string := hfit.test.1 rfl
        simp [Predicate.condition, Predicate.value, Condition.tooLong, ht, Value.ofText]
      | compare op => simp [Predicate.condition, Condition.tooLong]
    simp [Statement.tooLong, Plan.statement, Plan.PatternFits, hpred, hlong]

/-- The columns that the query of a request names are columns of the table. -/
theorem mem_names_of_mem_columns (h : (ListRequest.compile (Record.schema α) r).2 = .ok plan)
    {column : String} (hc : column ∈ (plan.statement (Record.schema α)).columns) :
    column ∈ Record.names α := by
  obtain ⟨hp, ho⟩ := ListRequest.compile_eq_ok_iff.1 h
  rcases List.mem_append.1 hc with hc | hc
  · cases hpred : plan.predicate with
    | none => simp [Plan.statement, hpred] at hc
    | some p =>
      obtain rfl : column = p.field.name := by simpa [Plan.statement, hpred] using hc
      have hfit := Predicate.Fits.of_compile (hpred ▸ hp)
      exact Record.Typed.column _ (mem_fields_of_compile (hpred ▸ hp)) hfit.isScalar
  · cases hord : plan.order with
    | none => simp [Plan.statement, hord] at hc
    | some o =>
      obtain rfl : column = o.field.name := by
        simpa [Plan.statement, hord, SortOrder.key] using hc
      obtain ⟨f, -, -, hd, hscalar⟩ := SortOrder.compile_eq_some_iff.1 (hord ▸ ho)
      exact Record.Typed.column _ (Schema.mem_of_resolve hd) hscalar

/-- The rows of a plan: those of the table that meet its condition, sorted by its order. -/
def Plan.rows (plan : Plan) (stored : List α) : List α :=
  (stored.filter (Statement.meets (plan.predicate.map (·.condition)).toList
    (plan.predicate.map (·.value)).toList)).mergeSort
      (Statement.inOrder (plan.order.map (·.key)).toList)

/-- The query of a request that compiles is read as its plan, whatever the table. -/
theorem fetch_eq (h : (ListRequest.compile (Record.schema α) r).2 = .ok plan)
    (table : Option (List α)) :
    (plan.toQuery (Record.schema α)).fetch table =
      match table with
      | none => .error (.noSuchTable (Record.schema α).entity)
      | some stored => (plan.statement (Record.schema α)).select
          (plan.predicate.map (·.value)).toList stored := by
  have hread := Statement.read?_render (isPlain_statement h)
  rw [← Plan.sql_toQuery] at hread
  have hvalues :
      (plan.toQuery (Record.schema α)).values = (plan.predicate.map (·.value)).toList := by
    rw [Plan.toQuery_eq]
  have hcolumns : (plan.statement (Record.schema α)).columns.find? (· ∉ Record.names α) = none := by
    rw [List.find?_eq_none]
    intro column hc
    simpa using mem_names_of_mem_columns h hc
  rw [Query.fetch, hread]
  cases table with
  | none => rfl
  | some stored =>
    dsimp only
    rw [hcolumns, hvalues]

/-- The rows of a plan are selected if its pattern, should it have one, is not too long. -/
theorem fetch_toQuery (h : (ListRequest.compile (Record.schema α) r).2 = .ok plan)
    (hfits : plan.PatternFits) (stored : List α) :
    (plan.toQuery (Record.schema α)).fetch (some stored) = .ok (plan.rows stored) := by
  have hlong : (plan.statement (Record.schema α)).tooLong (plan.predicate.map (·.value)).toList
      = false := Bool.eq_false_iff.2 fun hlong => (tooLong_iff h).1 hlong hfits
  rw [fetch_eq h]
  dsimp only
  rw [Statement.select, hlong, Bool.and_false, if_neg Bool.false_ne_true]
  rfl

theorem listTable_eq (h : (ListRequest.compile (Record.schema α) r).2 = .ok plan)
    (hfits : plan.PatternFits) (stored : List α) :
    (listTable (some stored) r).2 = .ok (plan.rows stored) := by
  have hcompile : ListRequest.compile (Record.schema α) r
      = ((ListRequest.compile (Record.schema α) r).1, .ok plan) := Prod.ext rfl h
  rw [listTable, hcompile]
  dsimp only
  rw [fetch_toQuery h hfits]
  rfl

/-- A request without a filter and an order lists the rows of the table as they stand. -/
theorem listTable_all (stored : List α) : (listTable (some stored) ⟨"", ""⟩).2 = .ok stored := by
  have hcompile : (ListRequest.compile (Record.schema α) ⟨"", ""⟩).2 = .ok ⟨none, none⟩ := rfl
  have hfits : Plan.PatternFits ⟨none, none⟩ := fun _ h => by cases h
  have hsorted : stored.Pairwise fun r s => Statement.inOrder [] r s = true :=
    List.pairwise_of_forall fun _ _ => rfl
  rw [listTable_eq hcompile hfits, Plan.rows]
  simp only [Option.map_none, Option.toList_none, Statement.meets, List.filter_true]
  rw [List.mergeSort_of_pairwise hsorted]

/-- A request that compiles lists just the rows that satisfy its filter, in its order. -/
theorem listTable_isAnswer {stored : List α} {earlier : α → α → Prop}
    (h : (ListRequest.compile (Record.schema α) r).2 = .ok plan) (hfits : plan.PatternFits)
    (hstored : stored.Nodup) (hearlier : stored.Pairwise earlier) :
    ∃ found, (listTable (some stored) r).2 = .ok found ∧ IsAnswer r earlier stored found := by
  obtain ⟨-, ho⟩ := ListRequest.compile_eq_ok_iff.1 h
  refine ⟨plan.rows stored, listTable_eq h hfits stored, ?_, fun row => ?_, ?_⟩
  · exact (List.mergeSort_perm _ _).nodup_iff.2 (hstored.sublist List.filter_sublist)
  · rw [Plan.rows, List.mem_mergeSort, List.mem_filter, meets_plan_iff h]
  · exact ordered_mergeSort ho (hstored.sublist List.filter_sublist)
      (hearlier.sublist List.filter_sublist)

end

end Listing
