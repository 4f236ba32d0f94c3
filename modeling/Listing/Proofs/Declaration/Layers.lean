import Listing.Declaration.TypeExpr
import Mathlib.Logic.ExistsUnique
import Mathlib.Logic.Relation

/-!
# Layers around a type

`Wraps t u`: the type `t` is one layer around `u`, which is a reference, a group, or a path to an
option or a box with `u` as the first of its arguments that is a type. Taking off layers ends, in
one type (`exists_core`, `Core.unique`), and every type is a layer, ends in the name of a scalar, or
is one of the closed types (`layer_cases`). What a field holds does not change with the layers
around its type, so it is read off what they end in (`fieldType_isClassification`).
-/

set_option autoImplicit false

namespace Listing.TypeExpr

open Relation

/-- The names that stand for the types that hold one value. -/
def scalarNames : FieldType → List String
  | .string => ["String", "str"]
  | .integer =>
    ["i8", "i16", "i32", "i64", "i128", "isize", "u8", "u16", "u32", "u64", "u128", "usize"]
  | .float => ["f32", "f64"]
  | .other => []

/-- `t` is the first of the arguments that is a type. -/
inductive FirstType : List TypeArg → TypeExpr → Prop
  | here {t : TypeExpr} {rest : List TypeArg} : FirstType (.type t :: rest) t
  | later {a : TypeArg} {t : TypeExpr} {rest : List TypeArg} : (∀ u, a ≠ .type u) →
      FirstType rest t → FirstType (a :: rest) t

/-- `t` is a path with the last name `name`, whatever stands before the name or behind it. -/
inductive EndsIn : TypeExpr → String → Prop
  | path {segments : List String} {name : String} {arguments : List TypeArg} :
      segments.getLast? = some name → EndsIn (.path segments arguments) name
  | call {segments : List String} {name : String} {inputs : List TypeExpr}
      {result : Option TypeExpr} :
      segments.getLast? = some name → EndsIn (.call segments inputs result) name

/-- `t` is one layer around `u`. -/
inductive Wraps : TypeExpr → TypeExpr → Prop
  | reference {t : TypeExpr} : Wraps (.reference t) t
  | group {t : TypeExpr} : Wraps (.group t) t
  | path {segments : List String} {name : String} {arguments : List TypeArg} {t : TypeExpr} :
      segments.getLast? = some name → name = "Option" ∨ name = "Box" → FirstType arguments t →
      Wraps (.path segments arguments) t

/-- The types that are no layer and do not end in the name of a scalar. -/
inductive Closed : TypeExpr → Prop
  | pointer {t : TypeExpr} : Closed (.pointer t)
  | paren {t : TypeExpr} : Closed (.paren t)
  | tuple {parts : List TypeExpr} : Closed (.tuple parts)
  | array {t : TypeExpr} : Closed (.array t)
  | slice {t : TypeExpr} : Closed (.slice t)
  | function {t : TypeExpr} : Closed (.function t)
  | dynamic {t : TypeExpr} : Closed (.dynamic t)
  | never : Closed .never
  | inferred : Closed .inferred
  | unread {text : String} : Closed (.unread text)
  | nameless {segments : List String} {arguments : List TypeArg} :
      segments.getLast? = none → Closed (.path segments arguments)
  | namelessCall {segments : List String} {inputs : List TypeExpr} {result : Option TypeExpr} :
      segments.getLast? = none → Closed (.call segments inputs result)
  | name {t : TypeExpr} {name : String} : EndsIn t name → (∀ k, name ∉ scalarNames k) →
      name ≠ "Option" → name ≠ "Box" → Closed t
  | bare {segments : List String} {name : String} {arguments : List TypeArg} :
      segments.getLast? = some name → name = "Option" ∨ name = "Box" →
      (∀ u, .type u ∉ arguments) → Closed (.path segments arguments)
  | bareCall {segments : List String} {name : String} {inputs : List TypeExpr}
      {result : Option TypeExpr} :
      segments.getLast? = some name → name = "Option" ∨ name = "Box" →
      Closed (.call segments inputs result)

/-- What is left of `t` when all its layers are taken off. -/
structure Core (t u : TypeExpr) : Prop where
  inside : ReflTransGen Wraps t u
  bare : ∀ v, ¬ Wraps u v

variable {t u v : TypeExpr} {segments : List String} {arguments : List TypeArg} {name : String}
  {k : FieldType}

/-! ## Names -/

theorem scalar?_eq_some_iff : scalar? name = some k ↔ name ∈ scalarNames k := by
  refine ⟨fun h => ?_, fun h => ?_⟩
  · unfold scalar? at h
    split at h
    · cases h
      simp_all [scalarNames]
    split at h
    · cases h
      simp_all [scalarNames, integerNames]
    split at h
    · cases h
      simp_all [scalarNames]
    · cases h
  · have hnames : ∀ n ∈ scalarNames k, scalar? n = some k := by cases k <;> decide
    exact hnames name h

theorem scalar?_eq_none_iff : scalar? name = none ↔ ∀ k, name ∉ scalarNames k := by
  simp only [Option.eq_none_iff_forall_ne_some, ne_eq, scalar?_eq_some_iff]

theorem isWrapper_iff : isWrapper name = true ↔ name = "Option" ∨ name = "Box" := by
  simp [isWrapper]

/-- A name that is looked into stands for no scalar. -/
theorem scalar?_of_wrapper (h : name = "Option" ∨ name = "Box") : scalar? name = none := by
  rcases h with rfl | rfl <;> decide

/-- A raw name is none of the names that are looked for. -/
theorem raw_ne {n : String} (h : n = "Option" ∨ n = "Box" ∨ n ∈ scalarNames k) (name : String) :
    "r#" ++ name ≠ n := by
  intro heq
  have hhead : n.toList.head? = some 'r' := by simp [← heq]
  have hnames : ∀ m ∈ scalarNames k, m.toList.head? ≠ some 'r' := by cases k <;> decide
  rcases h with rfl | rfl | h
  · exact absurd hhead (by decide)
  · exact absurd hhead (by decide)
  · exact hnames n h hhead

/-! ## Arguments -/

theorem FirstType.unique (h : FirstType arguments t) (h' : FirstType arguments u) : t = u := by
  induction h with
  | here =>
    cases h' with
    | here => rfl
    | later ha => exact absurd rfl (ha _)
  | later ha _ ih =>
    cases h' with
    | here => exact absurd rfl (ha _)
    | later _ h' => exact ih h'

/-- Arguments have a first type unless none of them is a type. -/
theorem firstType_or (arguments : List TypeArg) :
    (∃ t, FirstType arguments t) ∨ ∀ t, .type t ∉ arguments := by
  induction arguments with
  | nil => exact .inr fun t => List.not_mem_nil
  | cons a rest ih =>
    by_cases ha : ∃ t, a = .type t
    · obtain ⟨t, rfl⟩ := ha
      exact .inl ⟨t, .here⟩
    · have ha : ∀ t, a ≠ .type t := fun t h => ha ⟨t, h⟩
      refine ih.imp (fun ⟨t, h⟩ => ⟨t, .later ha h⟩) fun h t => ?_
      rw [List.mem_cons, not_or]
      exact ⟨(ha t).symm, h t⟩

theorem firstType_eq (h : FirstType arguments t) : firstType arguments = fieldType t := by
  induction h with
  | here => rw [firstType]
  | @later a _ _ ha _ ih =>
    cases a with
    | type t => exact absurd rfl (ha t)
    | _ => simpa [firstType] using ih

theorem firstType_of_none (h : ∀ t, .type t ∉ arguments) : firstType arguments = .other := by
  induction arguments with
  | nil => rw [firstType]
  | cons a rest ih =>
    have hrest : ∀ t, .type t ∉ rest := fun t ht => h t (List.mem_cons_of_mem a ht)
    cases a with
    | type t => exact absurd List.mem_cons_self (h t)
    | _ => simpa [firstType] using ih hrest

theorem FirstType.sizeOf_lt (h : FirstType arguments t) : sizeOf t < sizeOf arguments := by
  induction h with
  | here => simp; omega
  | later _ _ ih => simp; omega

/-! ## Layers -/

theorem Wraps.unique (h : Wraps t u) (h' : Wraps t v) : u = v := by
  cases h with
  | reference => cases h'; rfl
  | group => cases h'; rfl
  | path _ _ hu =>
    cases h' with
    | path _ _ hv => exact hu.unique hv

theorem Wraps.sizeOf_lt (h : Wraps t u) : sizeOf u < sizeOf t := by
  cases h with
  | reference => simp
  | group => simp
  | path _ _ hu =>
    have := hu.sizeOf_lt
    simp; omega

theorem exists_core (t : TypeExpr) : ∃ u, Core t u := by
  by_cases hw : ∃ u, Wraps t u
  · obtain ⟨u, hu⟩ := hw
    obtain ⟨v, hv⟩ := exists_core u
    exact ⟨v, .head hu hv.inside, hv.bare⟩
  · exact ⟨t, .refl, fun v hv => hw ⟨v, hv⟩⟩
termination_by sizeOf t
decreasing_by exact hu.sizeOf_lt

/-- Nothing but the type itself is inside a type that is no layer. -/
theorem eq_of_inside (h : ReflTransGen Wraps t u) (ht : ∀ v, ¬ Wraps t v) : u = t := by
  rcases h.cases_head with rfl | ⟨v, hv, -⟩
  · rfl
  · exact absurd hv (ht v)

theorem Core.unique (h : Core t u) (h' : Core t v) : u = v := by
  have hwraps : Relator.RightUnique Wraps := fun _ _ _ h h' => h.unique h'
  rcases ReflTransGen.total_of_right_unique hwraps h.inside h'.inside with huv | hvu
  · exact (eq_of_inside huv h.bare).symm
  · exact eq_of_inside hvu h'.bare

theorem name_cases (h : EndsIn t name) :
    (∃ k, name ∈ scalarNames k) ∨ (name = "Option" ∨ name = "Box") ∨ Closed t := by
  by_cases hk : ∃ k, name ∈ scalarNames k
  · exact .inl hk
  by_cases hw : name = "Option" ∨ name = "Box"
  · exact .inr (.inl hw)
  · obtain ⟨ho, hb⟩ := not_or.1 hw
    exact .inr (.inr (.name h (not_exists.1 hk) ho hb))

/-- What a type is: a layer, a path that ends in the name of a scalar, or a closed type. -/
theorem layer_cases (t : TypeExpr) :
    (∃ u, Wraps t u) ∨ (∃ k name, EndsIn t name ∧ name ∈ scalarNames k) ∨ Closed t := by
  cases t with
  | reference u => exact .inl ⟨u, .reference⟩
  | group u => exact .inl ⟨u, .group⟩
  | path segments arguments =>
    cases hlast : segments.getLast? with
    | none => exact .inr (.inr (.nameless hlast))
    | some name =>
      have hends : EndsIn (.path segments arguments) name := .path hlast
      rcases name_cases hends with ⟨k, hk⟩ | hw | hclosed
      · exact .inr (.inl ⟨k, name, hends, hk⟩)
      · rcases firstType_or arguments with ⟨u, hu⟩ | hnone
        · exact .inl ⟨u, .path hlast hw hu⟩
        · exact .inr (.inr (.bare hlast hw hnone))
      · exact .inr (.inr hclosed)
  | call segments inputs result =>
    cases hlast : segments.getLast? with
    | none => exact .inr (.inr (.namelessCall hlast))
    | some name =>
      have hends : EndsIn (.call segments inputs result) name := .call hlast
      rcases name_cases hends with ⟨k, hk⟩ | hw | hclosed
      · exact .inr (.inl ⟨k, name, hends, hk⟩)
      · exact .inr (.inr (.bareCall hlast hw))
      · exact .inr (.inr hclosed)
  | pointer => exact .inr (.inr .pointer)
  | paren => exact .inr (.inr .paren)
  | tuple => exact .inr (.inr .tuple)
  | array => exact .inr (.inr .array)
  | slice => exact .inr (.inr .slice)
  | function => exact .inr (.inr .function)
  | dynamic => exact .inr (.inr .dynamic)
  | never => exact .inr (.inr .never)
  | inferred => exact .inr (.inr .inferred)
  | unread => exact .inr (.inr .unread)

/-! ## What a field holds -/

theorem lastName_eq (h : segments.getLast? = some name) : lastName segments = name := by
  simp [lastName, h]

theorem fieldType_of_wraps (h : Wraps t u) : fieldType t = fieldType u := by
  cases h with
  | reference => rw [fieldType]
  | group => rw [fieldType]
  | path hlast hw hu =>
    rw [fieldType, lastName_eq hlast, scalar?_of_wrapper hw, isWrapper_iff.2 hw]
    exact firstType_eq hu

theorem fieldType_of_inside (h : ReflTransGen Wraps t u) : fieldType t = fieldType u := by
  induction h with
  | refl => rfl
  | tail _ huv ih => exact ih.trans (fieldType_of_wraps huv)

theorem fieldType_of_scalar (h : EndsIn t name) (hk : name ∈ scalarNames k) : fieldType t = k := by
  have hk := scalar?_eq_some_iff.2 hk
  cases h with
  | path hlast => rw [fieldType, lastName_eq hlast, hk]
  | call hlast => rw [fieldType, lastName_eq hlast, hk]; rfl

theorem fieldType_of_closed (h : Closed t) : fieldType t = .other := by
  have hempty : scalar? "" = none ∧ isWrapper "" = false := by decide
  cases h with
  | nameless hlast => simp [fieldType, lastName, hlast, hempty]
  | namelessCall hlast => simp [fieldType, lastName, hlast, hempty]
  | name hends hk ho hb =>
    have hk := scalar?_eq_none_iff.2 hk
    have hw : isWrapper _ ≠ true := fun h => (isWrapper_iff.1 h).elim ho hb
    cases hends with
    | path hlast => simp [fieldType, lastName_eq hlast, hk, hw]
    | call hlast => simp [fieldType, lastName_eq hlast, hk]
  | bare hlast hw hnone =>
    rw [fieldType, lastName_eq hlast, scalar?_of_wrapper hw, isWrapper_iff.2 hw]
    exact firstType_of_none hnone
  | bareCall hlast hw => simp [fieldType, lastName_eq hlast, scalar?_of_wrapper hw]
  | _ => simp [fieldType]

/-- The core of a type names what a field of the type holds, or it is closed. -/
theorem exists_end (t : TypeExpr) : ∃ u, ReflTransGen Wraps t u ∧
    ((∃ name, EndsIn u name ∧ name ∈ scalarNames (fieldType t)) ∨
      fieldType t = .other ∧ Closed u) := by
  obtain ⟨u, hu⟩ := exists_core t
  refine ⟨u, hu.inside, ?_⟩
  rw [fieldType_of_inside hu.inside]
  rcases layer_cases u with ⟨v, hv⟩ | ⟨k, name, hends, hname⟩ | hclosed
  · exact absurd hv (hu.bare v)
  · rw [fieldType_of_scalar hends hname]
    exact .inl ⟨name, hends, hname⟩
  · exact .inr ⟨fieldType_of_closed hclosed, hclosed⟩

/-- A way to tell what fields hold that looks through layers and at the last name of a path, and at
nothing else. -/
structure IsClassification (classify : TypeExpr → FieldType) : Prop where
  layers : ∀ t u, ReflTransGen Wraps t u → classify t = classify u
  ends : ∀ t, ∃! u, Core t u
  scalar : ∀ t k, k ≠ .other → (classify t = k ↔
    ∃ u name, ReflTransGen Wraps t u ∧ EndsIn u name ∧ name ∈ scalarNames k)
  other : ∀ t, classify t = .other ↔ ∃ u, ReflTransGen Wraps t u ∧ Closed u
  raw : ∀ t u name, ReflTransGen Wraps t u → EndsIn u ("r#" ++ name) → classify t = .other

/-- What a field holds is told by the core of its type: the scalar that the core names, and another
kind for every type that ends in a closed one. -/
theorem fieldType_isClassification : IsClassification fieldType where
  layers _ _ := fieldType_of_inside
  ends t := by
    obtain ⟨u, hu⟩ := exists_core t
    exact ⟨u, hu, fun v hv => hv.unique hu⟩
  scalar t k hk := by
    refine ⟨fun h => ?_, ?_⟩
    · obtain ⟨u, hu, ⟨name, hends, hname⟩ | ⟨hother, -⟩⟩ := exists_end t
      · exact ⟨u, name, hu, hends, h ▸ hname⟩
      · exact absurd (h.symm.trans hother) hk
    · intro h
      obtain ⟨u, name, hu, hends, hname⟩ := h
      rw [fieldType_of_inside hu, fieldType_of_scalar hends hname]
  other t := by
    refine ⟨fun h => ?_, ?_⟩
    · obtain ⟨u, hu, ⟨name, -, hname⟩ | ⟨-, hclosed⟩⟩ := exists_end t
      · rw [h] at hname
        exact absurd hname List.not_mem_nil
      · exact ⟨u, hu, hclosed⟩
    · intro h
      obtain ⟨u, hu, hclosed⟩ := h
      rw [fieldType_of_inside hu, fieldType_of_closed hclosed]
  raw t u name hu hends := by
    have hclosed : Closed u := .name hends (fun k hk => raw_ne (.inr (.inr hk)) name rfl)
      (raw_ne (k := .other) (.inl rfl) name) (raw_ne (k := .other) (.inr (.inl rfl)) name)
    rw [fieldType_of_inside hu, fieldType_of_closed hclosed]

/-- An option of a box of a reference to a text. -/
example : fieldType (.path ["std", "Option"] [.lifetime "a", .type
    (.group (.path ["Box"] [.type (.reference (.path ["str"] []))]))]) = .string := by decide

end Listing.TypeExpr
