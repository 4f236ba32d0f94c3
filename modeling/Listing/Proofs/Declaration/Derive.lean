import Listing.Declaration.Derive

/-!
# What is derived from an item

`Item.faults` lists all that is wrong with an item, in the order in which it is looked for, and
`Item.described` is what the item says where nothing is wrong. To derive is to give the first fault,
or else what is described (`derive_eq`). An item has no fault just if it is well formed
(`faults_eq_nil_iff`). Neither attributes with another path nor fields that are left out make a
difference (`derive_essential`, `derive_insert_skipped`). `derive_isDerivation` puts all of this
together.
-/

set_option autoImplicit false

namespace Listing

open Text

/-! ## Checks that stop at the first fault -/

section
variable {ε α β γ : Type}

/-- A value if there is no fault, or else the first fault. -/
def checked : List ε → β → Except ε β
  | [], value => .ok value
  | fault :: _, _ => .error fault

theorem checked_eq_ok_iff {faults : List ε} {value v : β} :
    checked faults value = .ok v ↔ faults = [] ∧ value = v := by
  cases faults <;> simp [checked]

theorem checked_eq_error_iff {faults : List ε} {value : β} {fault : ε} :
    checked faults value = .error fault ↔ faults.head? = some fault := by
  cases faults <;> simp [checked]

theorem map_checked (faults : List ε) (value : β) (f : β → γ) :
    (checked faults value).map f = checked faults (f value) := by
  cases faults <;> rfl

/-- One check after another looks for the faults of the one and then of the other. -/
theorem checked_bind {faults faults' : List ε} {value : β} {value' : γ} {f : β → Except ε γ}
    (h : f value = checked faults' value') :
    (checked faults value >>= f) = checked (faults ++ faults') value' := by
  cases faults with
  | nil => exact h
  | cons fault faults => rfl

/-- A run of checks looks for the faults of each in turn. -/
theorem foldlM_checked {step : β → α → Except ε β} {faults : α → List ε} {next : β → α → β}
    (h : ∀ b a, step b a = checked (faults a) (next b a)) (l : List α) (b : β) :
    l.foldlM step b = checked (l.flatMap faults) (l.foldl next b) := by
  induction l generalizing b with
  | nil => rfl
  | cons a l ih =>
    rw [List.foldlM_cons, List.flatMap_cons, List.foldl_cons, h]
    exact checked_bind (ih (next b a))

theorem mapM_checked {f : α → Except ε β} {faults : α → List ε} {value : α → β}
    (h : ∀ a, f a = checked (faults a) (value a)) (l : List α) :
    l.mapM f = checked (l.flatMap faults) (l.map value) := by
  induction l with
  | nil => rfl
  | cons a l ih =>
    rw [List.mapM_cons, List.flatMap_cons, List.map_cons, h]
    refine checked_bind ?_
    rw [ih]
    exact map_checked (l.flatMap faults) (l.map value) (value a :: ·)

end

/-! ## What settings say -/

namespace Setting

/-- The text of a setting of a name. -/
def textFor? (name : String) : Setting → Option String
  | ⟨path, some (.text t)⟩ => if path = name then some t else none
  | _ => none

/-- The texts given under a name. -/
def given (name : String) (settings : List Setting) : List String :=
  settings.filterMap (textFor? name)

/-- What is wrong with the value of a setting that must be given a text. -/
def textFaults (s : Setting) : List Fault :=
  match s.value with
  | some (.text _) => []
  | none => [.missingValue]
  | some .other => [.notText]

/-- What is wrong with a setting of an item. -/
def itemFaults (s : Setting) : List Fault :=
  if s.path = "entity" then s.textFaults else [.unknownItemSetting]

/-- What is wrong with a setting of a field. -/
def fieldFaults (s : Setting) : List Fault :=
  if s.path = "skip" then s.value.toList.map fun _ => .unexpectedValue
  else if s.path = "rename" then s.textFaults
  else [.unknownFieldSetting]

variable {s : Setting} {name : String}

theorem given_cons (name : String) (s : Setting) (settings : List Setting) :
    given name (s :: settings) = (s.textFor? name).toList ++ given name settings := by
  rw [given, List.filterMap_cons]
  cases s.textFor? name <;> rfl

theorem getLast?_given_cons (name : String) (s : Setting) (settings : List Setting) :
    (given name (s :: settings)).getLast? =
      (given name settings).getLast?.or (s.textFor? name) := by
  rw [given_cons, List.getLast?_append]
  cases s.textFor? name <;> rfl

theorem foldl_textFor? (name : String) (settings : List Setting) (e : String) :
    settings.foldl (fun e s => (s.textFor? name).getD e) e =
      (given name settings).getLast?.getD e := by
  induction settings generalizing e with
  | nil => rfl
  | cons s settings ih =>
    rw [List.foldl_cons, ih, getLast?_given_cons]
    cases (given name settings).getLast? <;> rfl

theorem text_eq_checked (s : Setting) (e : String) :
    s.text = checked s.textFaults ((s.textFor? s.path).getD e) := by
  obtain ⟨path, _ | _ | _⟩ := s
  · rfl
  · simp [text, textFaults, textFor?, checked]
  · rfl

theorem textFaults_eq_nil_iff : s.textFaults = [] ↔ ∃ t, s.value = some (.text t) := by
  obtain ⟨path, _ | _ | _⟩ := s <;> simp [textFaults]

theorem itemFaults_eq_nil_iff : s.itemFaults = [] ↔ ∃ t, s = ⟨"entity", some (.text t)⟩ := by
  obtain ⟨path, value⟩ := s
  unfold itemFaults
  split
  · rename_i hpath
    obtain rfl : path = "entity" := hpath
    simp [textFaults_eq_nil_iff]
  · rename_i hpath
    simp [show path ≠ "entity" from hpath]

theorem fieldFaults_eq_nil_iff :
    s.fieldFaults = [] ↔ s = ⟨"skip", none⟩ ∨ ∃ t, s = ⟨"rename", some (.text t)⟩ := by
  obtain ⟨path, value⟩ := s
  unfold fieldFaults
  split
  · rename_i hpath
    obtain rfl : path = "skip" := hpath
    cases value <;> simp
  · rename_i hskip
    have hskip : path ≠ "skip" := hskip
    split
    · rename_i hpath
      obtain rfl : path = "rename" := hpath
      simp [textFaults_eq_nil_iff]
    · rename_i hrename
      simp [hskip, show path ≠ "rename" from hrename]

end Setting

theorem Item.mem_settings_iff {attributes : List Attribute} {s : Setting} :
    s ∈ settings attributes ↔ ∃ a ∈ attributes, a.path = "filter" ∧ s ∈ a.settings := by
  simp [settings, and_left_comm]

/-- Attributes with another path have no say. -/
theorem Item.settings_filter (attributes : List Attribute) :
    settings (attributes.filter (·.path = "filter")) = settings attributes := by
  induction attributes with
  | nil => rfl
  | cons a attributes ih =>
    have hcons : ∀ rest, settings (a :: rest)
        = (if a.path = "filter" then a.settings else []) ++ settings rest := fun _ => rfl
    by_cases ha : a.path = "filter" <;> simp [ha, hcons, ih]

/-! ## Fields -/

namespace ItemField

def faults (f : ItemField) : List Fault := (Item.settings f.attributes).flatMap Setting.fieldFaults

/-- Each setting of the field is `skip`, or `rename` with a text. -/
def WellMarked (f : ItemField) : Prop := ∀ a ∈ f.attributes, a.path = "filter" → ∀ s ∈ a.settings,
  s = ⟨"skip", none⟩ ∨ ∃ t, s = ⟨"rename", some (.text t)⟩

/-- The same field without the attributes that have no say. -/
def essential (f : ItemField) : ItemField :=
  { f with attributes := f.attributes.filter (·.path = "filter") }

/-- The field is left out. -/
def isSkipped (f : ItemField) : Bool := ⟨"skip", none⟩ ∈ Item.settings f.attributes

/-- The column of a field: its last name or else its own, and what its type holds. -/
def column (f : ItemField) : Schema.Field :=
  ⟨(Setting.given "rename" (Item.settings f.attributes)).getLast?.getD (plainName f.name),
    f.type.fieldType⟩

theorem faults_eq_nil_iff {f : ItemField} : f.faults = [] ↔ f.WellMarked := by
  simp only [faults, List.flatMap_eq_nil_iff, Setting.fieldFaults_eq_nil_iff, Item.mem_settings_iff]
  exact ⟨fun h a ha hpath s hs => h s ⟨a, ha, hpath, hs⟩,
    fun h s ⟨a, ha, hpath, hs⟩ => h a ha hpath s hs⟩

theorem faults_essential (f : ItemField) : f.essential.faults = f.faults := by
  rw [faults, essential, Item.settings_filter, faults]

theorem isSkipped_essential (f : ItemField) : f.essential.isSkipped = f.isSkipped := by
  rw [isSkipped, essential, Item.settings_filter, isSkipped]

theorem column_essential (f : ItemField) : f.essential.column = f.column := by
  rw [column, essential, Item.settings_filter, column]

/-- The marks after a setting with no fault. -/
def Marks.read (m : Marks) (s : Setting) : Marks :=
  ⟨m.skip || ⟨"skip", none⟩ = s, (s.textFor? "rename").or m.rename⟩

theorem readSetting_eq (m : Marks) (s : Setting) :
    readSetting m s = checked s.fieldFaults (m.read s) := by
  obtain ⟨path, value⟩ := s
  unfold readSetting Setting.fieldFaults
  split
  · rename_i hpath
    obtain rfl : path = "skip" := hpath
    cases value <;> simp [checked, Marks.read, Setting.textFor?]
  · rename_i hskip
    have hskip : path ≠ "skip" := hskip
    split
    · rename_i hpath
      obtain rfl : path = "rename" := hpath
      rw [Setting.text_eq_checked _ "", map_checked]
      cases value with
      | none => rfl
      | some v =>
        cases v with
        | text t => simp [checked, Setting.textFaults, Marks.read, Setting.textFor?]
        | other => rfl
    · rfl

theorem foldl_read (settings : List Setting) (m : Marks) : settings.foldl Marks.read m =
    ⟨m.skip || ⟨"skip", none⟩ ∈ settings,
      (Setting.given "rename" settings).getLast?.or m.rename⟩ := by
  induction settings generalizing m with
  | nil => simp [Setting.given]
  | cons s settings ih =>
    rw [List.foldl_cons, ih, Setting.getLast?_given_cons]
    simp [Marks.read, Bool.or_assoc, Option.or_assoc]

theorem declared?_eq (f : ItemField) :
    f.declared? = checked f.faults (if f.isSkipped then none else some f.column) := by
  rw [declared?, marks, foldlM_checked readSetting_eq, map_checked, foldl_read]
  simp [faults, isSkipped, column]

end ItemField

namespace Shape

/-- The fields of a record, none where there is no record. -/
def fields : Shape → List ItemField
  | .named fields => fields
  | .positional | .unit | .enumeration | .union => []

/-- What is wrong with the form of an item. -/
def formFaults : Shape → List Fault
  | .named _ => []
  | .positional | .unit => [.unnamedFields]
  | .enumeration | .union => [.notRecord]

/-- The same form without the attributes that have no say. -/
def essential : Shape → Shape
  | .named fields => .named (fields.map ItemField.essential)
  | shape => shape

theorem formFaults_eq_nil_iff {shape : Shape} :
    shape.formFaults = [] ↔ ∃ fields, shape = .named fields := by
  cases shape <;> simp [formFaults]

theorem fields_essential (shape : Shape) :
    shape.essential.fields = shape.fields.map ItemField.essential := by
  cases shape <;> rfl

theorem formFaults_essential (shape : Shape) : shape.essential.formFaults = shape.formFaults := by
  cases shape <;> rfl

end Shape

namespace Item

variable {item : Item}

/-- All that is wrong with an item, in the order in which it is looked for: parameters, settings of
the item, its form, settings of its fields. -/
def faults (item : Item) : List Fault :=
  (if item.isGeneric then [.generic] else [])
    ++ (settings item.attributes).flatMap Setting.itemFaults
    ++ item.shape.formFaults ++ item.shape.fields.flatMap ItemField.faults

/-- What an item says: the last entity it is given or else its name in snake case, and the columns
of its fields without those that are left out. -/
def described (item : Item) : Derived :=
  ⟨(Setting.given "entity" (settings item.attributes)).getLast?.getD
    (SnakeCase.snakeCase item.name),
    (item.shape.fields.filter fun f => !f.isSkipped).map ItemField.column⟩

/-- An item from which a schema can be derived: a record without parameters, with no settings but an
entity for itself and `skip` or a name for its fields. -/
structure WellFormed (item : Item) : Prop where
  plain : item.isGeneric = false
  settings : ∀ a ∈ item.attributes, a.path = "filter" → ∀ s ∈ a.settings,
    ∃ t, s = ⟨"entity", some (.text t)⟩
  record : ∃ fields, item.shape = .named fields ∧ ∀ f ∈ fields, f.WellMarked

/-- The same item without the attributes that have no say. -/
def essential (item : Item) : Item :=
  { item with
    attributes := item.attributes.filter (·.path = "filter")
    shape := item.shape.essential }

/-! ## Deriving -/

theorem entity_eq (item : Item) : item.entity =
    checked ((settings item.attributes).flatMap Setting.itemFaults) item.described.entity := by
  have hstep : ∀ e s, readSetting e s = checked s.itemFaults ((s.textFor? "entity").getD e) := by
    intro e s
    unfold readSetting Setting.itemFaults
    split
    · rename_i hpath
      rw [s.text_eq_checked e, hpath]
    · rfl
  rw [entity, foldlM_checked hstep, Setting.foldl_textFor?]
  rfl

theorem recordFields_eq (item : Item) :
    item.recordFields = checked item.shape.formFaults item.shape.fields := by
  unfold recordFields
  cases item.shape <;> rfl

theorem filterMap_declared (fields : List ItemField) :
    (fields.map fun f => if f.isSkipped then none else some f.column).filterMap id
      = (fields.filter fun f => !f.isSkipped).map ItemField.column := by
  induction fields with
  | nil => rfl
  | cons f fields ih =>
    rw [List.map_cons, List.filterMap_cons, List.filter_cons, ih]
    cases f.isSkipped <;> rfl

/-- To derive is to give the first fault of an item, or else what it says. -/
theorem derive_eq (item : Item) : item.derive = checked item.faults item.described := by
  unfold derive faults
  cases item.isGeneric with
  | true => rfl
  | false =>
    simp only [Bool.false_eq_true, if_false, List.nil_append, List.append_assoc]
    rw [entity_eq]
    refine checked_bind ?_
    rw [recordFields_eq]
    refine checked_bind ?_
    rw [mapM_checked ItemField.declared?_eq]
    refine (map_checked _ _ fun declared : List (Option Schema.Field) =>
      (⟨item.described.entity, declared.filterMap id⟩ : Derived)).trans ?_
    rw [filterMap_declared]
    rfl

/-- The settings of an item are read before its form is looked at. -/
example : derive ⟨"Kind", "", [⟨"filter", [⟨"entity", none⟩]⟩], .enumeration⟩ =
    .error .missingValue := rfl

/-! ## Items without fault -/

theorem faults_eq_nil_iff : item.faults = [] ↔ item.WellFormed := by
  have hparameters :
      (if item.isGeneric then [Fault.generic] else []) = [] ↔ item.isGeneric = false := by
    cases item.isGeneric <;> simp
  simp only [faults, List.append_eq_nil_iff, hparameters, List.flatMap_eq_nil_iff,
    Setting.itemFaults_eq_nil_iff, Shape.formFaults_eq_nil_iff, ItemField.faults_eq_nil_iff]
  constructor
  · rintro ⟨⟨⟨hplain, hsettings⟩, fields, hshape⟩, hfields⟩
    refine ⟨hplain, fun a ha hpath s hs =>
      hsettings s (mem_settings_iff.2 ⟨a, ha, hpath, hs⟩), fields, hshape, ?_⟩
    rwa [hshape] at hfields
  · rintro ⟨hplain, hsettings, fields, hshape, hfields⟩
    refine ⟨⟨⟨hplain, fun s hs => ?_⟩, fields, hshape⟩, by rwa [hshape]⟩
    obtain ⟨a, ha, hpath, hs⟩ := mem_settings_iff.1 hs
    exact hsettings a ha hpath s hs

/-! ## What makes no difference -/

theorem derive_congr {item' : Item} (hfaults : item'.faults = item.faults)
    (hdescribed : item'.described = item.described) : item'.derive = item.derive := by
  rw [derive_eq, derive_eq, hfaults, hdescribed]

theorem derive_essential (item : Item) : item.essential.derive = item.derive := by
  have hsettings : settings item.essential.attributes = settings item.attributes :=
    settings_filter item.attributes
  have hform : item.essential.shape.formFaults = item.shape.formFaults :=
    Shape.formFaults_essential item.shape
  have hfields : item.essential.shape.fields = item.shape.fields.map ItemField.essential :=
    Shape.fields_essential item.shape
  apply derive_congr
  · rw [faults, hform, hsettings, hfields, List.flatMap_map]
    simp only [ItemField.faults_essential]
    rfl
  · rw [described, hsettings, hfields, List.filter_map, List.map_map]
    simp only [Function.comp_def, ItemField.isSkipped_essential, ItemField.column_essential]
    rfl

/-- One more field makes no difference if it is left out and its settings are in order. -/
theorem derive_insert_skipped {before after : List ItemField} {f : ItemField}
    (hshape : item.shape = .named (before ++ after)) (hf : f.WellMarked)
    (hskip : f.isSkipped = true) :
    derive { item with shape := .named (before ++ f :: after) } = item.derive := by
  have hfaults : f.faults = [] := ItemField.faults_eq_nil_iff.2 hf
  apply derive_congr
  · rw [faults, faults, hshape]
    simp [isGeneric, Shape.formFaults, Shape.fields, hfaults]
  · rw [described, described, hshape]
    simp [Shape.fields, hskip]

/-! ## Derivations -/

/-- What it is to derive a schema from an item. It is possible just for a well-formed item, and
otherwise the first fault is told. The entity is the last one given, or else the name in snake case;
the columns are those of the fields that are not left out, in their order; the schema declares them
in this order. Attributes that have no say and fields that are left out make no difference. -/
structure IsDerivation (item : Item) (result : Except Fault Derived) : Prop where
  accepted_iff : (∃ d, result = .ok d) ↔ item.WellFormed
  rejected_iff : ∀ fault, result = .error fault ↔ item.faults.head? = some fault
  entity_eq : ∀ d, result = .ok d → d.entity =
    (Setting.given "entity" (settings item.attributes)).getLast?.getD
      (SnakeCase.snakeCase item.name)
  fields_eq : ∀ d, result = .ok d → ∃ fields, item.shape = .named fields ∧
    d.fields = (fields.filter fun f => !f.isSkipped).map ItemField.column
  schema_eq : ∀ d, result = .ok d → d.schema = d.fields.foldl Schema.declare (.empty d.entity)
  essential : ∀ other : Item, other.essential = item.essential → other.derive = result
  insert_skipped : ∀ before after f, item.shape = .named (before ++ after) → f.WellMarked →
    f.isSkipped = true → derive { item with shape := .named (before ++ f :: after) } = result

/-- Whatever item is written, what is derived from it is its derivation. -/
theorem derive_isDerivation (item : Item) : IsDerivation item item.derive := by
  have hok : ∀ d, item.derive = .ok d ↔ item.faults = [] ∧ item.described = d := fun d => by
    rw [derive_eq, checked_eq_ok_iff]
  exact
    { accepted_iff := by
        rw [← faults_eq_nil_iff]
        exact ⟨fun ⟨d, hd⟩ => ((hok d).1 hd).1, fun h => ⟨_, (hok _).2 ⟨h, rfl⟩⟩⟩
      rejected_iff := fun fault => by rw [derive_eq, checked_eq_error_iff]
      entity_eq := fun d hd => by rw [← ((hok d).1 hd).2, described]
      fields_eq := fun d hd => by
        obtain ⟨hfaults, rfl⟩ := (hok d).1 hd
        obtain ⟨fields, hshape, -⟩ := (faults_eq_nil_iff.1 hfaults).record
        exact ⟨fields, hshape, by rw [described, hshape, Shape.fields]⟩
      schema_eq := fun _ _ => rfl
      essential := fun other h => by rw [← derive_essential, h, derive_essential]
      insert_skipped := fun _ _ _ hshape hf hskip => derive_insert_skipped hshape hf hskip }

end Item

end Listing
