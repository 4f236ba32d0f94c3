import Listing.Proofs.Filter.Predicate
import Listing.Proofs.Literal
import Listing.Proofs.Rejection
import Listing.Proofs.Schema.Names

/-!
# The language of filters

`Accepted schema x p`: the text `x` is a filter for `schema` and `p` is its predicate, said by
concatenation and the grammar of values alone. `Flaw schema x r`: the rejection `r` holds of `x`,
whatever else is wrong with it. Compiling accepts exactly the accepted texts and reports the first
flaw of every other one in the order of `Rejection.stage` (`compile_language`).
-/

set_option autoImplicit false

namespace Listing.Filter

open Text Rejection

/-- The words for the operators, and their signs in a query. -/
def symbols : List (String × String) :=
  [("lt", "<"), ("le", "<="), ("gt", ">"), ("ge", ">="), ("eq", "==")]

/-- The filters for a schema and their predicates. -/
inductive Accepted (schema : Schema) (x : String) (p : Predicate) : Prop
  | contains {f v : String} {d : Schema.Field} : x = f ++ "." ++ v → Segment f → Segment v →
      schema.Declares f d → d.type = .string → d.type.Literal v → p.field = d →
      p.fragment = d.name ++ " LIKE ?" → p.boundText = "%" ++ v ++ "%" → Accepted schema x p
  | compare {f o sign v : String} {d : Schema.Field} : x = f ++ "." ++ o ++ "." ++ v →
      Segment f → (o, sign) ∈ symbols → Segment v → schema.Declares f d →
      d.type = .integer ∨ d.type = .float → d.type.Literal v → p.field = d →
      p.fragment = d.name ++ " " ++ sign ++ " ?" → p.boundText = v → Accepted schema x p

/-- What can be wrong with a filter, each said without regard to the others. -/
inductive Flaw (schema : Schema) (x : String) : Rejection → Prop
  | count {segs : List String} : Cut x segs → segs.length ≠ 2 → segs.length ≠ 3 →
      Flaw schema x (.malformed .filterBy x)
  | empty {segs : List String} : Cut x segs → "" ∈ segs → Flaw schema x (.emptySegment .filterBy x)
  | operator {f o v : String} : Cut x [f, o, v] → (∀ sign, (o, sign) ∉ symbols) →
      Flaw schema x (.unknownOperator o)
  | field {f : String} {rest : List String} : Cut x (f :: rest) →
      (∀ d, ¬ schema.Declares f d) → Flaw schema x (.unknownField f schema.entity)
  | partialMatch {f v : String} {d : Schema.Field} : Cut x [f, v] → schema.Declares f d →
      d.type ≠ .string → Flaw schema x (.partialMatch d)
  | comparison {f o v : String} {d : Schema.Field} : Cut x [f, o, v] → schema.Declares f d →
      d.type = .string → Flaw schema x (.comparison d)
  | value {f v : String} {rest : List String} {d : Schema.Field} : Cut x (f :: rest) →
      rest.getLast? = some v → schema.Declares f d → ¬ d.type.Literal v →
      Flaw schema x (.invalidValue d v)

variable {schema : Schema} {x : String} {p p' : Predicate} {r r' : Rejection}

theorem mem_symbols_iff {o sign : String} :
    (o, sign) ∈ symbols ↔ ∃ op : Operator, op.token = o ∧ op.symbol = sign := by
  refine ⟨fun h => ?_, ?_⟩
  · simp only [symbols, List.mem_cons, Prod.mk.injEq, List.not_mem_nil, or_false] at h
    rcases h with ⟨rfl, rfl⟩ | ⟨rfl, rfl⟩ | ⟨rfl, rfl⟩ | ⟨rfl, rfl⟩ | ⟨rfl, rfl⟩
    exacts [⟨.lt, rfl, rfl⟩, ⟨.le, rfl, rfl⟩, ⟨.gt, rfl, rfl⟩, ⟨.ge, rfl, rfl⟩, ⟨.eq, rfl, rfl⟩]
  · intro h
    obtain ⟨op, rfl, rfl⟩ := h
    cases op <;> simp [symbols, Operator.token, Operator.symbol]

theorem symbols_functional {o sign sign' : String} (h : (o, sign) ∈ symbols)
    (h' : (o, sign') ∈ symbols) : sign = sign' := by
  obtain ⟨op, rfl, rfl⟩ := mem_symbols_iff.1 h
  obtain ⟨op', hop, rfl⟩ := mem_symbols_iff.1 h'
  have : some op' = some op := by rw [← Operator.ofToken?_token, hop, Operator.ofToken?_token]
  rw [Option.some.inj this]

/-! ## What a predicate shows -/

theorem symbol_injective {op op' : Operator} (h : op.symbol = op'.symbol) : op = op' := by
  cases op <;> cases op' <;> first | rfl | exact absurd h (by decide)

theorem like_ne_symbol (op : Operator) : " LIKE ?" ≠ " " ++ op.symbol ++ " ?" := by
  cases op <;> decide

/-- The field, the condition and the bound text determine a predicate. -/
theorem Predicate.eq_of_shown (hfield : p.field = p'.field) (hfragment : p.fragment = p'.fragment)
    (hbound : p.boundText = p'.boundText) : p = p' := by
  obtain ⟨d, test, v⟩ := p
  obtain ⟨d', test', v'⟩ := p'
  obtain rfl : d = d' := hfield
  cases test with
  | contains =>
    cases test' with
    | contains =>
      have : v = v' := by simpa [Predicate.boundText] using hbound
      rw [this]
    | compare op =>
      have : " LIKE ?" = " " ++ op.symbol ++ " ?" := by
        simpa [Predicate.fragment, String.append_assoc] using hfragment
      exact absurd this (like_ne_symbol op)
  | compare op =>
    cases test' with
    | contains =>
      have : " " ++ op.symbol ++ " ?" = " LIKE ?" := by
        simpa [Predicate.fragment, String.append_assoc] using hfragment
      exact absurd this.symm (like_ne_symbol op)
    | compare op' =>
      have hop : op.symbol = op'.symbol := by
        simpa [Predicate.fragment, String.append_assoc] using hfragment
      have hv : v = v' := hbound
      rw [symbol_injective hop, hv]

/-! ## Flaws

What passes a check has no flaw of the check's stage. -/

section
variable {segs rest : List String} {f v : String} {d : Schema.Field}

theorem Flaw.stage_ne_zero (h : Flaw schema x r) (hc : Cut x segs)
    (hl : segs.length = 2 ∨ segs.length = 3) : r.stage ≠ 0 := by
  intro hr
  cases h with
  | count hc' h2 h3 =>
    obtain rfl := hc.unique hc'
    omega
  | _ => exact absurd hr (by simp [stage])

theorem Flaw.stage_ne_one (h : Flaw schema x r) (hc : Cut x segs) (he : "" ∉ segs) :
    r.stage ≠ 1 := by
  intro hr
  cases h with
  | empty hc' he' => exact he (hc.unique hc' ▸ he')
  | _ => exact absurd hr (by simp [stage])

theorem Flaw.stage_ne_two (h : Flaw schema x r) (hc : Cut x segs)
    (ho : ∀ f o v, segs = [f, o, v] → ∃ sign, (o, sign) ∈ symbols) : r.stage ≠ 2 := by
  intro hr
  cases h with
  | operator hc' ho' =>
    obtain ⟨sign, hsign⟩ := ho _ _ _ (hc.unique hc')
    exact ho' sign hsign
  | _ => exact absurd hr (by simp [stage])

theorem Flaw.stage_ne_three (h : Flaw schema x r) (hc : Cut x (f :: rest))
    (hd : schema.Declares f d) : r.stage ≠ 3 := by
  intro hr
  cases h with
  | field hc' hd' =>
    obtain ⟨rfl, -⟩ := List.cons.inj (hc.unique hc')
    exact hd' d hd
  | _ => exact absurd hr (by simp [stage])

theorem Flaw.stage_ne_four (h : Flaw schema x r) (hs : Schema.Distinct schema.fields)
    (hc : Cut x (f :: rest)) (hd : schema.Declares f d)
    (hfit : d.type = .string ↔ rest.length = 1) : r.stage ≠ 4 := by
  intro hr
  cases h with
  | partialMatch hc' hd' ht =>
    obtain ⟨rfl, rfl⟩ := List.cons.inj (hc.unique hc')
    exact ht (hd.unique hs hd' ▸ hfit.2 rfl)
  | comparison hc' hd' ht =>
    obtain ⟨rfl, rfl⟩ := List.cons.inj (hc.unique hc')
    have : [_, _].length = 1 := hfit.1 (hd'.unique hs hd ▸ ht)
    simp at this
  | _ => exact absurd hr (by simp [stage])

theorem Flaw.stage_ne_five (h : Flaw schema x r) (hs : Schema.Distinct schema.fields)
    (hc : Cut x (f :: rest)) (hv : rest.getLast? = some v) (hd : schema.Declares f d)
    (hl : d.type.Literal v) : r.stage ≠ 5 := by
  intro hr
  cases h with
  | value hc' hv' hd' hl' =>
    obtain ⟨rfl, rfl⟩ := List.cons.inj (hc.unique hc')
    obtain rfl := Option.some.inj (hv.symm.trans hv')
    exact hl' (hd.unique hs hd' ▸ hl)
  | _ => exact absurd hr (by simp [stage])

/-- A text of two segments that parses has no flaw but against the schema. -/
theorem Flaw.three_le_of_two (h : Flaw schema x r) (hc : Cut x [f, v]) (hf : f ≠ "") (hv : v ≠ "") :
    3 ≤ r.stage := by
  have h0 := h.stage_ne_zero hc (.inl rfl)
  have h1 := h.stage_ne_one hc (by simp [hf.symm, hv.symm])
  have h2 := h.stage_ne_two hc (by simp)
  omega

theorem Flaw.three_le_of_three {op : Operator} (h : Flaw schema x r) (hc : Cut x [f, op.token, v])
    (hf : f ≠ "") (hv : v ≠ "") : 3 ≤ r.stage := by
  have ho : (op.token, op.symbol) ∈ symbols := mem_symbols_iff.2 ⟨op, rfl, rfl⟩
  have h0 := h.stage_ne_zero hc (.inr rfl)
  have h1 := h.stage_ne_one hc (by simp [hf.symm, (token_ne_empty op).symm, hv.symm])
  have h2 := h.stage_ne_two hc (by rintro _ _ _ ⟨⟩; exact ⟨_, ho⟩)
  omega

/-- A text has one flaw of a stage. -/
theorem Flaw.eq_of_stage_eq (hs : Schema.Distinct schema.fields) (h : Flaw schema x r)
    (h' : Flaw schema x r') (hr : r.stage = r'.stage) : r = r' := by
  cases h with
  | count =>
    cases h' with
    | count => rfl
    | _ => exact absurd hr (by simp [stage])
  | empty =>
    cases h' with
    | empty => rfl
    | _ => exact absurd hr (by simp [stage])
  | operator hc =>
    cases h' with
    | operator hc' => cases hc.unique hc'; rfl
    | _ => exact absurd hr (by simp [stage])
  | field hc =>
    cases h' with
    | field hc' => cases hc.unique hc'; rfl
    | _ => exact absurd hr (by simp [stage])
  | partialMatch hc hd =>
    cases h' with
    | partialMatch hc' hd' => cases hc.unique hc'; rw [hd.unique hs hd']
    | comparison hc' => cases hc.unique hc'
    | _ => exact absurd hr (by simp [stage])
  | comparison hc hd =>
    cases h' with
    | comparison hc' hd' => cases hc.unique hc'; rw [hd.unique hs hd']
    | partialMatch hc' => cases hc.unique hc'
    | _ => exact absurd hr (by simp [stage])
  | value hc hv hd =>
    cases h' with
    | value hc' hv' hd' =>
      cases hc.unique hc'
      rw [hd.unique hs hd', Option.some.inj (hv.symm.trans hv')]
    | _ => exact absurd hr (by simp [stage])

end

/-- The flaws of the text alone do not depend on the schema. -/
theorem Flaw.of_stage_lt {schema' : Schema} (h : Flaw schema x r) (hr : r.stage < 3) :
    Flaw schema' x r := by
  cases h with
  | count hc h2 h3 => exact .count hc h2 h3
  | empty hc he => exact .empty hc he
  | operator hc ho => exact .operator hc ho
  | _ => exact absurd hr (by simp [stage])

/-! ## Accepted texts -/

theorem cut_compare {f o sign v : String} (hf : Segment f) (ho : (o, sign) ∈ symbols)
    (hv : Segment v) (hx : x = f ++ "." ++ o ++ "." ++ v) : Cut x [f, o, v] := by
  obtain ⟨op, rfl, -⟩ := mem_symbols_iff.1 ho
  exact cut_three_iff.2 ⟨hf.dotFree, token_dotFree op, hv.dotFree, hx⟩

/-- A text is accepted with one predicate. -/
theorem Accepted.unique (hs : Schema.Distinct schema.fields) (h : Accepted schema x p)
    (h' : Accepted schema x p') : p = p' := by
  cases h with
  | contains hx hf hv hd _ _ hfield hfragment hbound =>
    have hc := cut_two_iff.2 ⟨hf.dotFree, hv.dotFree, hx⟩
    cases h' with
    | contains hx' hf' hv' hd' _ _ hfield' hfragment' hbound' =>
      cases hc.unique (cut_two_iff.2 ⟨hf'.dotFree, hv'.dotFree, hx'⟩)
      cases hd.unique hs hd'
      exact Predicate.eq_of_shown (hfield.trans hfield'.symm) (hfragment.trans hfragment'.symm)
        (hbound.trans hbound'.symm)
    | compare hx' hf' ho' hv' => cases hc.unique (cut_compare hf' ho' hv' hx')
  | compare hx hf ho hv hd _ _ hfield hfragment hbound =>
    have hc := cut_compare hf ho hv hx
    cases h' with
    | contains hx' hf' hv' => cases hc.unique (cut_two_iff.2 ⟨hf'.dotFree, hv'.dotFree, hx'⟩)
    | compare hx' hf' ho' hv' hd' _ _ hfield' hfragment' hbound' =>
      cases hc.unique (cut_compare hf' ho' hv' hx')
      cases hd.unique hs hd'
      cases symbols_functional ho ho'
      exact Predicate.eq_of_shown (hfield.trans hfield'.symm) (hfragment.trans hfragment'.symm)
        (hbound.trans hbound'.symm)

/-- An accepted text has none of the flaws. -/
theorem Accepted.not_flaw (hs : Schema.Distinct schema.fields) (h : Accepted schema x p) :
    ¬ Flaw schema x r := by
  intro hr
  have hstage : r.stage ≤ 5 := stage_le_five r
  cases h with
  | contains hx hf hv hd ht hl =>
    have hc := cut_two_iff.2 ⟨hf.dotFree, hv.dotFree, hx⟩
    have hthree := hr.three_le_of_two hc hf.ne_empty hv.ne_empty
    have h3 := hr.stage_ne_three hc hd
    have h4 := hr.stage_ne_four hs hc hd (by simp [ht])
    have h5 := hr.stage_ne_five hs hc rfl hd hl
    omega
  | @compare f o sign v d hx hf ho hv hd ht hl =>
    have hc := cut_compare hf ho hv hx
    obtain ⟨op, rfl, rfl⟩ := mem_symbols_iff.1 ho
    have hns : d.type ≠ .string := by rcases ht with ht | ht <;> simp [ht]
    have hthree := hr.three_le_of_three hc hf.ne_empty hv.ne_empty
    have h3 := hr.stage_ne_three hc hd
    have h4 := hr.stage_ne_four hs hc hd (by simp [hns])
    have h5 := hr.stage_ne_five hs hc rfl hd hl
    omega

/-! ## What compiling does -/

section
variable {segs : List String} {f o v : String} {d : Schema.Field} {op : Operator}

/-- What compiling a text that is not empty may give: the predicate of an accepted text, or the
first flaw of another. -/
def Judged (schema : Schema) (x : String) : Except Rejection (Option Predicate) → Prop
  | .ok (some p) => Accepted schema x p
  | .ok none => False
  | .error r => First (Flaw schema x) r

theorem judged_contains (hs : Schema.Distinct schema.fields) (hc : Cut x [f, v]) (hf : f ≠ "")
    (hv : v ≠ "") : Judged schema x (((Expression.contains f v).compile schema).map some) := by
  -- a check that passes rules out the flaws of its stage, so the first to fail has the first flaw
  have hthree : ∀ r, Flaw schema x r → 3 ≤ r.stage := fun r h => h.three_le_of_two hc hf hv
  simp only [Expression.compile, Expression.field]
  cases hd : schema.resolve f with
  | none => exact ⟨.field hc (Schema.resolve_eq_none_iff.1 hd), hthree⟩
  | some d =>
    rw [Schema.resolve_eq_some_iff hs] at hd
    have hfour : ∀ r, Flaw schema x r → 4 ≤ r.stage := fun r h =>
      Nat.lt_of_le_of_ne (hthree r h) (h.stage_ne_three hc hd).symm
    dsimp only
    split
    · rename_i ht
      exact ⟨.partialMatch hc hd ht, hfour⟩
    · rename_i ht
      have ht : d.type = .string := not_not.1 ht
      split
      · rename_i hl
        have hfs : Segment f := ⟨hf, hc.dotFree f (by simp)⟩
        have hvs : Segment v := ⟨hv, hc.dotFree v (by simp)⟩
        exact .contains (cut_two_iff.1 hc).2.2 hfs hvs hd ht (accepts_iff.1 hl) rfl rfl rfl
      · rename_i hl
        refine ⟨.value hc rfl hd (mt accepts_iff.2 hl), fun r h => ?_⟩
        exact Nat.lt_of_le_of_ne (hfour r h) (h.stage_ne_four hs hc hd (by simp [ht])).symm

theorem judged_compare (hs : Schema.Distinct schema.fields) (hc : Cut x [f, op.token, v])
    (hf : f ≠ "") (hv : v ≠ "") :
    Judged schema x (((Expression.compare f op v).compile schema).map some) := by
  have ho : (op.token, op.symbol) ∈ symbols := mem_symbols_iff.2 ⟨op, rfl, rfl⟩
  have hthree : ∀ r, Flaw schema x r → 3 ≤ r.stage := fun r h => h.three_le_of_three hc hf hv
  simp only [Expression.compile, Expression.field]
  cases hd : schema.resolve f with
  | none => exact ⟨.field hc (Schema.resolve_eq_none_iff.1 hd), hthree⟩
  | some d =>
    rw [Schema.resolve_eq_some_iff hs] at hd
    have hfour : ∀ r, Flaw schema x r → 4 ≤ r.stage := fun r h =>
      Nat.lt_of_le_of_ne (hthree r h) (h.stage_ne_three hc hd).symm
    dsimp only
    split
    · rename_i ht
      exact ⟨.comparison hc hd ht, hfour⟩
    · rename_i ht
      split
      · rename_i hl
        have hl : d.type.Literal v := accepts_iff.1 hl
        have hnum : d.type = .integer ∨ d.type = .float := hl.numeric ht
        have hfs : Segment f := ⟨hf, hc.dotFree f (by simp)⟩
        have hvs : Segment v := ⟨hv, hc.dotFree v (by simp)⟩
        exact .compare (cut_three_iff.1 hc).2.2.2 hfs ho hvs hd hnum hl rfl rfl rfl
      · rename_i hl
        refine ⟨.value hc rfl hd (mt accepts_iff.2 hl), fun r h => ?_⟩
        exact Nat.lt_of_le_of_ne (hfour r h) (h.stage_ne_four hs hc hd (by simp [ht])).symm

end

/-- Every text that is not empty is accepted, or refused for its first flaw. -/
theorem judged_compile (hs : Schema.Distinct schema.fields) (hx : x ≠ "") :
    Judged schema x (compile schema x) := by
  have hp := parse_cases hx
  unfold compile
  generalize Expression.parse x = parsed at hp
  cases hp with
  | count hc h2 h3 => exact ⟨.count hc h2 h3, fun r _ => Nat.zero_le _⟩
  | empty hc hl he => exact ⟨.empty hc he, fun r h => Nat.pos_of_ne_zero (h.stage_ne_zero hc hl)⟩
  | contains hc hf hv => exact judged_contains hs hc hf hv
  | compare hc hf hv => exact judged_compare hs hc hf hv
  | operator hc hf ho hv hop =>
    refine ⟨.operator hc fun sign hsign => ?_, fun r h => ?_⟩
    · obtain ⟨op, rfl, -⟩ := mem_symbols_iff.1 hsign
      simp at hop
    · have h0 := h.stage_ne_zero hc (.inr rfl)
      have h1 := h.stage_ne_one hc (by simp [hf.symm, ho.symm, hv.symm])
      change 2 ≤ r.stage
      omega

/-! ## The language -/

theorem compile_empty (schema : Schema) : compile schema "" = .ok none := rfl

theorem not_accepted_empty : ¬ Accepted schema "" p := by
  intro h
  cases h with
  | contains hx hf hv => cases cut_empty.unique (cut_two_iff.2 ⟨hf.dotFree, hv.dotFree, hx⟩)
  | compare hx hf ho hv => cases cut_empty.unique (cut_compare hf ho hv hx)

theorem compile_eq_ok_none_iff (hs : Schema.Distinct schema.fields) :
    compile schema x = .ok none ↔ x = "" := by
  refine ⟨fun h => ?_, fun h => h ▸ compile_empty schema⟩
  by_contra hx
  have hj := judged_compile hs hx
  rw [h] at hj
  exact hj

theorem compile_eq_ok_some_iff (hs : Schema.Distinct schema.fields) :
    compile schema x = .ok (some p) ↔ Accepted schema x p := by
  by_cases hx : x = ""
  · subst hx
    simp [compile_empty, not_accepted_empty]
  · have hj := judged_compile hs hx
    refine ⟨fun h => ?_, fun h => ?_⟩
    · rwa [h] at hj
    · generalize compile schema x = compiled at hj
      obtain r | (_ | p') := compiled
      · exact absurd hj.1 (h.not_flaw hs)
      · exact hj.elim
      · rw [Accepted.unique hs hj h]

theorem compile_eq_error_iff (hs : Schema.Distinct schema.fields) :
    compile schema x = .error r ↔ x ≠ "" ∧ First (Flaw schema x) r := by
  by_cases hx : x = ""
  · subst hx
    simp [compile_empty]
  · have hj := judged_compile hs hx
    refine ⟨fun h => ⟨hx, by rwa [h] at hj⟩, fun h => ?_⟩
    generalize compile schema x = compiled at hj
    obtain r' | (_ | p) := compiled
    · rw [First.unique (fun _ _ => Flaw.eq_of_stage_eq hs) hj h.2]
    · exact hj.elim
    · exact absurd h.2.1 (hj.not_flaw hs)

/-- Compiling accepts exactly the filters of the schema, and of every other text it reports the
first flaw; the first three causes do not depend on the schema. -/
theorem compile_language (entity : String) (declared : List Schema.Field) (x : String) :
    let schema := Schema.ofFields entity declared
    (compile schema x = .ok none ↔ x = "") ∧
    (∀ p, compile schema x = .ok (some p) ↔ Accepted schema x p) ∧
    (∀ r, compile schema x = .error r ↔ x ≠ "" ∧ First (Flaw schema x) r) ∧
    ∀ entity' declared' r, r.stage < 3 →
      (compile schema x = .error r ↔ compile (.ofFields entity' declared') x = .error r) := by
  have hs := Schema.distinct_ofFields entity declared
  refine ⟨compile_eq_ok_none_iff hs, fun p => compile_eq_ok_some_iff hs,
    fun r => compile_eq_error_iff hs, fun entity' declared' r hr => ?_⟩
  rw [compile_eq_error_iff hs, compile_eq_error_iff (Schema.distinct_ofFields entity' declared')]
  refine and_congr_right fun _ => ⟨fun h => ?_, fun h => ?_⟩
  · exact h.congr (fun r hr => ⟨fun h => h.of_stage_lt hr, fun h => h.of_stage_lt hr⟩) hr
  · exact h.congr (fun r hr => ⟨fun h => h.of_stage_lt hr, fun h => h.of_stage_lt hr⟩) hr

end Listing.Filter
