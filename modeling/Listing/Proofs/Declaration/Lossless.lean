import Listing.Proofs.Declaration.Derive
import Listing.Proofs.Schema.Declared

/-!
# Which fields a derived schema keeps

A schema that is derived from an item is `Lossless` if every field that is not left out has an entry
of its own, in the order of the fields, and is found under its name. It is so just if no two of the
fields have one name up to ASCII case (`derive_lossless_iff`). Otherwise there are fewer entries
than fields, and a name finds the last of the fields that have it; nothing tells of the others
(`price_lost`).
-/

set_option autoImplicit false

namespace Listing

open Schema Text

namespace Item

variable {item : Item} {d : Derived}

/-- The fields of an item that are not left out. -/
def kept (item : Item) : List ItemField := item.shape.fields.filter fun f => !f.isSkipped

/-- No two of the fields that are kept have one name up to ASCII case. -/
def NamesApart (item : Item) : Prop :=
  item.kept.Pairwise fun f g => sameWord f.column.name g.column.name = false

/-- `g` is the last of some fields with the name of `f` up to ASCII case. -/
def LastNamed (fields : List ItemField) (f g : ItemField) : Prop :=
  ∃ before after, fields = before ++ g :: after ∧ sameWord g.column.name f.column.name = true ∧
    ∀ h ∈ after, sameWord h.column.name f.column.name = false

/-- Every field that is kept has an entry of its own in the derived schema, and its name finds it,
in the very spelling and with what the type of the field holds. -/
structure Lossless (item : Item) (d : Derived) : Prop where
  length_eq : d.schema.fields.length = item.kept.length
  fields_eq : d.schema.fields = item.kept.map ItemField.column
  resolve_eq : ∀ f ∈ item.kept, d.schema.resolve f.column.name = some f.column

theorem fields_of_derive (h : item.derive = .ok d) : d.fields = item.kept.map ItemField.column := by
  rw [derive_eq] at h
  rw [← (checked_eq_ok_iff.1 h).2, described, kept]

theorem distinct_columns_iff : Distinct (item.kept.map ItemField.column) ↔ item.NamesApart :=
  List.pairwise_map

theorem length_schema_le (h : item.derive = .ok d) : d.schema.fields.length ≤ item.kept.length := by
  have hle := length_ofFields_le d.entity d.fields
  rwa [fields_of_derive h, List.length_map, ← fields_of_derive h] at hle

theorem namesApart_of_length (h : item.derive = .ok d)
    (hlength : d.schema.fields.length = item.kept.length) : item.NamesApart := by
  have hschema : (ofFields d.entity d.fields).fields.length = d.fields.length := by
    rw [← Derived.schema, hlength, fields_of_derive h, List.length_map]
  rw [← distinct_columns_iff, ← fields_of_derive h]
  exact distinct_of_length_ofFields hschema

theorem lossless_of_namesApart (h : item.derive = .ok d) (hapart : item.NamesApart) :
    Lossless item d := by
  have hdistinct : Distinct d.fields := by rwa [fields_of_derive h, distinct_columns_iff]
  have hfields : d.schema.fields = item.kept.map ItemField.column := by
    rw [Derived.schema, fields_ofFields_of_distinct hdistinct, fields_of_derive h]
  refine ⟨by rw [hfields, List.length_map], hfields, fun f hf => ?_⟩
  refine (resolve_eq_some_iff (distinct_ofFields d.entity d.fields)).2 ⟨?_, sameWord_refl _⟩
  rw [← Derived.schema, hfields]
  exact List.mem_map_of_mem hf

/-- The name of a field that is kept finds the last field that has it. -/
theorem resolve_lastNamed (h : item.derive = .ok d) {f : ItemField} (hf : f ∈ item.kept) :
    ∃ g, LastNamed item.kept f g ∧ d.schema.resolve f.column.name = some g.column := by
  have hsome : d.schema.resolve f.column.name ≠ none := by
    intro hnone
    have hmem : f.column ∈ d.fields := fields_of_derive h ▸ List.mem_map_of_mem hf
    have := resolve_ofFields_eq_none_iff.1 hnone f.column hmem
    rw [sameWord_refl] at this
    cases this
  obtain ⟨column, hcolumn⟩ := Option.ne_none_iff_exists'.1 hsome
  obtain ⟨before, after, hsplit, hname, hafter⟩ := resolve_ofFields_eq_some_iff.1 hcolumn
  rw [fields_of_derive h] at hsplit
  -- the columns were split; the fields are split at the same place
  obtain ⟨fields, rest, hkept, -, hrest⟩ := List.map_eq_append_iff.1 hsplit
  obtain ⟨g, others, rfl, rfl, rfl⟩ := List.map_eq_cons_iff.1 hrest
  exact ⟨g, ⟨fields, others, hkept, hname, fun k hk => hafter k.column (List.mem_map_of_mem hk)⟩,
    hcolumn⟩

/-- A derived schema loses no field just if the names of its fields are distinct up to case. Where
two fields have one name there are fewer entries than fields, and the last field of a name is the
one found. -/
theorem derive_lossless_iff (h : item.derive = .ok d) :
    (Lossless item d ↔ item.NamesApart) ∧
    (¬ item.NamesApart → d.schema.fields.length < item.kept.length) ∧
    ∀ f ∈ item.kept, ∃ g, LastNamed item.kept f g ∧
      d.schema.resolve f.column.name = some g.column := by
  refine ⟨⟨fun hl => ?_, lossless_of_namesApart h⟩, fun hsame => ?_,
    fun f hf => resolve_lastNamed h hf⟩
  · exact namesApart_of_length h hl.length_eq
  · exact Nat.lt_of_le_of_ne (length_schema_le h) fun heq => hsame (namesApart_of_length h heq)

/-- A record whose raw field and renamed field are told apart, with a field that is left out under a
name that is taken. -/
def ticket : Item := ⟨"Ticket", "", [], .named [
  ⟨"r#type", .path ["String"] [], []⟩,
  ⟨"Kind", .path ["i32"] [], [⟨"filter", [⟨"rename", some (.text "type")⟩, ⟨"skip", none⟩]⟩]⟩,
  ⟨"cost", .path ["f64"] [], [⟨"filter", [⟨"rename", some (.text "Price")⟩]⟩]⟩]⟩

theorem derive_lossless_iff_ticket :
    ticket.derive = .ok ⟨"ticket", [⟨"type", .string⟩, ⟨"Price", .float⟩]⟩ ∧
      Lossless ticket ⟨"ticket", [⟨"type", .string⟩, ⟨"Price", .float⟩]⟩ := by
  have h : ticket.derive = .ok ⟨"ticket", [⟨"type", .string⟩, ⟨"Price", .float⟩]⟩ := by
    decide +kernel
  refine ⟨h, (derive_lossless_iff h).1.2 ?_⟩
  unfold NamesApart
  decide

/-- A field that is renamed to the name of another one up to case takes its place: of two fields one
is left, and the name of the first finds the second. -/
theorem price_lost :
    let item : Item := ⟨"Listing", "", [], .named [⟨"price", .path ["i32"] [], []⟩,
      ⟨"cost", .path ["f64"] [], [⟨"filter", [⟨"rename", some (.text "Price")⟩]⟩]⟩]⟩
    ∃ d, item.derive = .ok d ∧ ¬ Lossless item d ∧
      d.fields = [⟨"price", .integer⟩, ⟨"Price", .float⟩] ∧
      d.schema.fields = [⟨"Price", .float⟩] ∧
      d.schema.resolve "price" = some ⟨"Price", .float⟩ := by
  intro item
  refine ⟨⟨"listing", [⟨"price", .integer⟩, ⟨"Price", .float⟩]⟩, ?_, fun h => ?_, rfl, ?_, ?_⟩
  · decide +kernel
  · exact absurd h.length_eq (by decide)
  · decide
  · decide

end Item

end Listing
