import Listing.Proofs.Schema.Names
import Mathlib.Data.List.Basic
import Mathlib.Data.List.Induction

/-!
# What declaring fields comes to

A schema made by declaring fields one after the other is a map from names, up to ASCII case, to the
field last declared under them (`resolve_ofFields_eq_some_iff`). Its fields stand where their names
were first declared (`firstDeclared_lt_ofFields`), and to declare them once more gives the schema
itself (`ofFields_fields`). `isMapOf_ofFields` says all of it of every list of declarations.
-/

set_option autoImplicit false

namespace Listing.Schema

open Text

variable {s : Schema} {n m : String} {f g : Field} {entity : String} {fields declared : List Field}

/-- `f` is declared under the name `n`, and nothing is declared under it afterwards. -/
def LastDeclared (declared : List Field) (n : String) (f : Field) : Prop :=
  ∃ before after, declared = before ++ f :: after ∧ sameWord f.name n = true ∧
    ∀ g ∈ after, sameWord g.name n = false

/-- The number of declarations before the first of a name. -/
def firstDeclared (declared : List Field) (n : String) : Nat :=
  declared.findIdx fun f => sameWord f.name n

/-- A schema of an entity as a map of its declarations: the last one of a name is the one found, and
the first one gives the field its place. -/
structure IsMapOf (entity : String) (declared : List Field) (s : Schema) : Prop where
  entity_eq : s.entity = entity
  distinct : s.fields.Pairwise fun f g => sameWord f.name g.name = false
  mem_iff : ∀ f, f ∈ s.fields ↔ LastDeclared declared f.name f
  resolve_eq_none_iff : ∀ n, s.resolve n = none ↔ ∀ f ∈ declared, sameWord f.name n = false
  resolve_eq_some_iff : ∀ n f, s.resolve n = some f ↔ LastDeclared declared n f
  typeOf_eq_some_iff : ∀ n t, s.typeOf n = some t ↔ ∃ f, LastDeclared declared n f ∧ f.type = t
  ordered : s.fields.Pairwise fun f g =>
    firstDeclared declared f.name < firstDeclared declared g.name
  resolve_same : ∀ n m, sameWord n m = true → s.resolve n = s.resolve m ∧ s.typeOf n = s.typeOf m
  declared_again : ofFields entity s.fields = s

theorem ofFields_concat (entity : String) (declared : List Field) (f : Field) :
    ofFields entity (declared ++ [f]) = (ofFields entity declared).declare f := by
  simp [ofFields]

theorem fields_ofFields_concat (entity : String) (declared : List Field) (f : Field) :
    (ofFields entity (declared ++ [f])).fields = place f (ofFields entity declared).fields := by
  rw [ofFields_concat, declare]

@[simp] theorem entity_ofFields (entity : String) (declared : List Field) :
    (ofFields entity declared).entity = entity := by
  induction declared using List.reverseRecOn with
  | nil => rfl
  | append_singleton declared f ih => rw [ofFields_concat, entity_declare, ih]

/-! ## The last declaration of a name -/

theorem not_lastDeclared_nil : ¬ LastDeclared [] n f := by
  rintro ⟨before, after, h, -⟩
  simp at h

/-- One more declaration is the last of its name, and leaves all other names alone. -/
theorem lastDeclared_concat_iff : LastDeclared (declared ++ [g]) n f ↔
    if sameWord g.name n = true then g = f else LastDeclared declared n f := by
  split
  · rename_i hg
    constructor
    · rintro ⟨before, after, h, -, hafter⟩
      rcases List.eq_nil_or_concat' after with rfl | ⟨after, last, rfl⟩
      · exact (List.append_singleton_inj.1 h).2
      · rw [← List.cons_append, ← List.append_assoc] at h
        obtain ⟨-, rfl⟩ := List.append_singleton_inj.1 h
        have := hafter g (by simp)
        rw [hg] at this
        cases this
    · rintro rfl
      exact ⟨declared, [], rfl, hg, by simp⟩
  · rename_i hg
    have hg := Bool.eq_false_iff.2 hg
    constructor
    · rintro ⟨before, after, h, hf, hafter⟩
      rcases List.eq_nil_or_concat' after with rfl | ⟨after, last, rfl⟩
      · obtain ⟨-, rfl⟩ := List.append_singleton_inj.1 h
        rw [hf] at hg
        cases hg
      · rw [← List.cons_append, ← List.append_assoc] at h
        obtain ⟨rfl, -⟩ := List.append_singleton_inj.1 h
        exact ⟨before, after, rfl, hf, fun d hd => hafter d (by simp [hd])⟩
    · rintro ⟨before, after, rfl, hf, hafter⟩
      refine ⟨before, after ++ [g], by simp, hf, fun d hd => ?_⟩
      rcases List.mem_append.1 hd with hd | hd
      · exact hafter d hd
      · rw [List.mem_singleton.1 hd, hg]

theorem resolve_ofFields_eq_some_iff :
    (ofFields entity declared).resolve n = some f ↔ LastDeclared declared n f := by
  induction declared using List.reverseRecOn with
  | nil => simpa [ofFields, resolve, empty] using not_lastDeclared_nil
  | append_singleton declared g ih =>
    rw [ofFields_concat, resolve_declare, lastDeclared_concat_iff]
    split
    · exact Option.some_inj
    · exact ih

theorem resolve_ofFields_eq_none_iff :
    (ofFields entity declared).resolve n = none ↔ ∀ f ∈ declared, sameWord f.name n = false := by
  induction declared using List.reverseRecOn with
  | nil => simp [ofFields, resolve, empty]
  | append_singleton declared g ih =>
    rw [ofFields_concat, resolve_declare, List.forall_mem_append, List.forall_mem_singleton]
    cases hg : sameWord g.name n with
    | true => simp
    | false => simpa using ih

theorem mem_ofFields_iff :
    f ∈ (ofFields entity declared).fields ↔ LastDeclared declared f.name f := by
  have hfound := resolve_eq_some_iff (n := f.name) (f := f) (distinct_ofFields entity declared)
  rw [resolve_ofFields_eq_some_iff] at hfound
  rw [hfound]
  exact ⟨fun h => ⟨h, sameWord_refl _⟩, fun h => h.1⟩

theorem typeOf_ofFields_eq_some_iff {t : FieldType} : (ofFields entity declared).typeOf n = some t ↔
    ∃ f, LastDeclared declared n f ∧ f.type = t := by
  simp [typeOf, Option.map_eq_some_iff, resolve_ofFields_eq_some_iff]

/-! ## The place of a name

The place of a field depends on the case class of its name alone, and a declaration adds a class at
the end or none at all. So the order is followed on the list of classes. -/

/-- The case classes of the names of fields. -/
def classes (fields : List Field) : List (List Char) := fields.map fun f => foldCase f.name

theorem classes_append (fields fields' : List Field) :
    classes (fields ++ fields') = classes fields ++ classes fields' := List.map_append

theorem firstDeclared_eq (declared : List Field) (n : String) :
    firstDeclared declared n = (classes declared).idxOf (foldCase n) := by
  rw [firstDeclared, classes, List.idxOf, List.findIdx_map]
  rfl

theorem classes_place (f : Field) (fields : List Field) : classes (place f fields) =
    if foldCase f.name ∈ classes fields then classes fields
    else classes fields ++ [foldCase f.name] := by
  induction fields with
  | nil => simp [place, classes]
  | cons g fields ih =>
    rw [place]
    by_cases hg : sameWord g.name f.name = true
    · have hclass := sameWord_iff.1 hg
      simp [hg, classes, hclass]
    · have hclass : foldCase f.name ≠ foldCase g.name := fun h => hg (sameWord_iff.2 h.symm)
      have hcons : ∀ fields, classes (g :: fields) = foldCase g.name :: classes fields :=
        fun _ => rfl
      rw [if_neg hg, hcons, hcons, ih]
      simp only [List.mem_cons, or_iff_right hclass]
      split <;> rfl

theorem mem_classes_ofFields_iff {c : List Char} :
    c ∈ classes (ofFields entity declared).fields ↔ c ∈ classes declared := by
  induction declared using List.reverseRecOn with
  | nil => rfl
  | append_singleton declared f ih =>
    rw [fields_ofFields_concat, classes_place, classes_append, List.mem_append, ← ih]
    split
    · rename_i hmem
      refine ⟨Or.inl, fun h => h.elim id fun hc => ?_⟩
      rwa [List.mem_singleton.1 hc]
    · exact List.mem_append

/-- The fields of a schema stand in the order in which their names were first declared. -/
theorem firstDeclared_lt_ofFields (entity : String) (declared : List Field) :
    (ofFields entity declared).fields.Pairwise fun f g =>
      firstDeclared declared f.name < firstDeclared declared g.name := by
  suffices h : (classes (ofFields entity declared).fields).Pairwise fun c d =>
      (classes declared).idxOf c < (classes declared).idxOf d by
    simpa only [firstDeclared_eq] using List.pairwise_map.1 h
  induction declared using List.reverseRecOn with
  | nil => exact .nil
  | append_singleton declared f ih =>
    have hidx : ∀ c ∈ classes (ofFields entity declared).fields,
        (classes (declared ++ [f])).idxOf c = (classes declared).idxOf c := fun c hc => by
      rw [classes_append, List.idxOf_append_of_mem (mem_classes_ofFields_iff.1 hc)]
    -- the classes that were there keep their order
    have hkeep : (classes (ofFields entity declared).fields).Pairwise fun c d =>
        (classes (declared ++ [f])).idxOf c < (classes (declared ++ [f])).idxOf d :=
      ih.imp_of_mem fun hc hd h => by rwa [hidx _ hc, hidx _ hd]
    rw [fields_ofFields_concat, classes_place]
    split
    · exact hkeep
    · rename_i hnew
      refine List.pairwise_append.2 ⟨hkeep, List.pairwise_singleton _ _, fun c hc d hd => ?_⟩
      rw [List.mem_singleton.1 hd, hidx c hc, classes_append,
        List.idxOf_append_of_notMem fun h => hnew (mem_classes_ofFields_iff.2 h)]
      have := List.idxOf_lt_length_of_mem (mem_classes_ofFields_iff.1 hc)
      omega

/-! ## Declaring the fields of a schema -/

/-- A field with a new name goes last. -/
theorem place_of_new (h : ∀ g ∈ fields, sameWord g.name f.name = false) :
    place f fields = fields ++ [f] := by
  induction fields with
  | nil => rfl
  | cons g fields ih =>
    obtain ⟨hg, hfields⟩ := List.forall_mem_cons.1 h
    rw [place, hg, ih hfields]
    rfl

/-- Fields with new and distinct names are added as they stand. -/
theorem foldl_declare_of_distinct (h : Distinct (s.fields ++ fields)) :
    fields.foldl declare s = { s with fields := s.fields ++ fields } := by
  induction fields generalizing s with
  | nil => simp
  | cons f fields ih =>
    obtain ⟨-, -, hcross⟩ := List.pairwise_append.1 h
    have hplace : (s.declare f).fields = s.fields ++ [f] :=
      place_of_new fun g hg => hcross g hg f List.mem_cons_self
    rw [List.foldl_cons, ih (by rwa [hplace, List.append_assoc]), hplace]
    simp [declare]

theorem ofFields_fields (h : Distinct s.fields) : ofFields s.entity s.fields = s := by
  rw [ofFields, foldl_declare_of_distinct (s := empty s.entity) h]
  rfl

/-! ## Declarations of one name

A declaration takes the place of an earlier one of its name. So there are as many fields as
declarations just if no two of these have one name. -/

theorem length_place (f : Field) (fields : List Field) : (place f fields).length =
    if foldCase f.name ∈ classes fields then fields.length else fields.length + 1 := by
  have h := congrArg List.length (classes_place f fields)
  rw [classes, List.length_map] at h
  rw [h]
  split <;> simp [classes]

theorem length_ofFields_le (entity : String) (declared : List Field) :
    (ofFields entity declared).fields.length ≤ declared.length := by
  induction declared using List.reverseRecOn with
  | nil => exact Nat.le_refl 0
  | append_singleton declared f ih =>
    rw [fields_ofFields_concat, length_place, List.length_append, List.length_singleton]
    split <;> omega

theorem fields_ofFields_of_distinct (h : Distinct declared) :
    (ofFields entity declared).fields = declared := by
  rw [ofFields, foldl_declare_of_distinct (s := empty entity) h]
  rfl

theorem distinct_of_length_ofFields
    (h : (ofFields entity declared).fields.length = declared.length) : Distinct declared := by
  induction declared using List.reverseRecOn with
  | nil => exact .nil
  | append_singleton declared f ih =>
    have hle := length_ofFields_le entity declared
    rw [fields_ofFields_concat, length_place, List.length_append, List.length_singleton] at h
    split at h
    · omega
    · rename_i hnew
      refine List.pairwise_append.2 ⟨ih (by omega), List.pairwise_singleton _ _,
        fun g hg f' hf' => ?_⟩
      rw [List.mem_singleton.1 hf']
      by_contra hsame
      have hclass := sameWord_iff.1 ((Bool.not_eq_false _).mp hsame)
      rw [mem_classes_ofFields_iff] at hnew
      exact hnew (hclass ▸ List.mem_map_of_mem hg)

/-- However fields are declared, the schema is a map of its declarations. -/
theorem isMapOf_ofFields (entity : String) (declared : List Field) :
    IsMapOf entity declared (ofFields entity declared) :=
  { entity_eq := entity_ofFields entity declared
    distinct := distinct_ofFields entity declared
    mem_iff := fun _ => mem_ofFields_iff
    resolve_eq_none_iff := fun _ => resolve_ofFields_eq_none_iff
    resolve_eq_some_iff := fun _ _ => resolve_ofFields_eq_some_iff
    typeOf_eq_some_iff := fun _ _ => typeOf_ofFields_eq_some_iff
    ordered := firstDeclared_lt_ofFields entity declared
    resolve_same := fun _ _ h => ⟨resolve_congr h _, typeOf_congr h _⟩
    declared_again := by
      have h := ofFields_fields (distinct_ofFields entity declared)
      rwa [entity_ofFields] at h }

/-- A name declared twice keeps its place and takes the new spelling and type. -/
example : (ofFields "offers" [⟨"price", .integer⟩, ⟨"name", .string⟩, ⟨"Price", .float⟩]).fields
    = [⟨"Price", .float⟩, ⟨"name", .string⟩] := by
  decide

end Listing.Schema
