import ApiDescription.Proofs.Schema.Context
import ApiDescription.Proofs.Schema.Layers

namespace ApiDescription

namespace Json

-- What holds of a schema and of all schemas inside of it.
def Throughout (p : Json → Prop) (schema : Json) : Prop := ∀ part, SchemaAt schema part → p part

theorem throughout_iff (p : Json → Prop) (schema : Json) :
    Throughout p schema ↔ p schema ∧ ∀ inner ∈ schema.subschemas, Throughout p inner := by
  constructor
  · exact fun h => ⟨h schema (.here schema), fun inner hm part hp => h part (.inside hm hp)⟩
  · rintro ⟨hroot, hinner⟩ part hp
    cases hp with
    | here => exact hroot
    | inside hm hp => exact hinner _ hm part hp

-- No type is named twice.
def TypesDistinct (schema : Json) : Prop :=
  ∀ names, schema.get? "type" = some (array names) → names.Nodup

theorem typesDistinct_of_ne_array {schema : Json}
    (h : ∀ names, schema.get? "type" ≠ some (array names)) : TypesDistinct schema :=
  fun names hnames => absurd hnames (h names)

theorem throughout_typesDistinct_congr {before after : Entries Json}
    (h : ∀ key ∈ "type" :: places, after.get? key = before.get? key) :
    Throughout TypesDistinct (object after) ↔ Throughout TypesDistinct (object before) := by
  have htype : TypesDistinct (object after) ↔ TypesDistinct (object before) := by
    rw [TypesDistinct, TypesDistinct, get?_object, get?_object, h "type" (.head _)]
  rw [throughout_iff, throughout_iff, htype, subschemas_congr fun key hm => h key (.tail _ hm)]

end Json

namespace Schema

open Json (Throughout TypesDistinct subschemas)

theorem subschemas_exportDescribed (text : Option String) (entries : Entries Json) :
    subschemas (.object (exportDescribed text entries)) = subschemas (.object entries) :=
  Json.subschemas_congr fun _ hm => get?_exportDescribed_of_mem (by decide) hm text entries

-- What stands directly in the export of a node other than a layer stands directly in the node.
theorem subschemas_toJsonSchema (dialect : Dialect) {schema : Schema}
    (hbare : schema.Bare) :
    subschemas (schema.toJsonSchema dialect) = schema.inside.map (toJsonSchema dialect) := by
  cases schema with
  | leaf kind text =>
    have hnone : ∀ key ∈ Json.places,
        (Json.object (exportLeaf dialect kind)).get? key = (Json.object []).get? key :=
      fun key hm => get?_exportLeaf hm dialect kind
    rw [toJsonSchema, exportEntries, subschemas_exportDescribed, Json.subschemas_congr hnone]
    rfl
  | array items limits text =>
    rw [toJsonSchema, exportEntries, subschemas_exportDescribed, subschemas_exportArray]
    rfl
  | object properties policy text =>
    rw [toJsonSchema, exportEntries, subschemas_exportDescribed, subschemas_exportObject,
      exportProperties_eq_map, inside, List.map_map, List.map_map]
    rfl
  | record values text =>
    rw [toJsonSchema, exportEntries, subschemas_exportDescribed]
    rfl
  | union options text =>
    rw [toJsonSchema, exportEntries, subschemas_exportDescribed, exportOptions_eq_map]
    rfl
  | wrapped wrapper inner text => exact absurd rfl (hbare wrapper inner text)

-- A node other than a layer names at most one type.
theorem typesDistinct_toJsonSchema {schema : Schema}
    (hbare : schema.Bare) :
    TypesDistinct (schema.toJsonSchema .draft7) := by
  have hdescribed : ∀ (text : Option String) (entries : Entries Json),
      (Json.object (exportDescribed text entries)).get? "type" = entries.get? "type" :=
    fun text entries => get?_exportDescribed (by decide) text entries
  intro names h
  cases schema with
  | leaf kind text =>
    rw [toJsonSchema, exportEntries, hdescribed, get?_type_exportLeaf] at h
    obtain ⟨name, _, hname⟩ := Option.map_eq_some_iff.mp h
    cases hname
  | array items limits text | object properties policy text | record values text
  | union options text =>
    rw [toJsonSchema, exportEntries, hdescribed] at h
    cases h
  | wrapped wrapper inner text => exact absurd rfl (hbare wrapper inner text)

-- A node whose only value is null.
def onlyNull : Schema → Bool
  | leaf .null _ | leaf (.literal .null) _ => true
  | _ => false

theorem typeName?_eq_null_iff (kind : Leaf) (text : Option String) :
    kind.typeName? = some "null" ↔ (leaf kind text).onlyNull = true := by
  cases kind with
  | number limits => cases h : limits.integer <;> simp [Leaf.typeName?, onlyNull, h]
  | literal value => cases value <;> simp [Leaf.typeName?, onlyNull, literalType]
  | string | boolean | null | enumeration | void | any => simp [Leaf.typeName?, onlyNull]

theorem get?_type_eq_null_iff (schema : Schema) :
    (exportEntries .draft7 schema).get? "type" = some (.string "null") ↔
      schema.exposed.onlyNull = true := by
  have hne : ∀ name, name ≠ "null" → some (Json.string name) ≠ some (.string "null") := by simp
  rw [← get?_exportEntries_exposed .draft7 (by decide) (by decide)]
  cases he : schema.exposed with
  | leaf kind text =>
    rw [exportEntries, get?_exportDescribed (by decide), get?_type_exportLeaf,
      ← typeName?_eq_null_iff kind text]
    simp
  | array items limits text =>
    rw [exportEntries, get?_exportDescribed (by decide)]
    exact iff_of_false (hne "array" (by decide)) Bool.false_ne_true
  | object properties policy text | record values text =>
    rw [exportEntries, get?_exportDescribed (by decide)]
    exact iff_of_false (hne "object" (by decide)) Bool.false_ne_true
  | union options text =>
    rw [exportEntries, get?_exportDescribed (by decide)]
    exact iff_of_false (Option.some_ne_none _).symm Bool.false_ne_true
  | wrapped wrapper inner text =>
    obtain rfl := eq_nullable_of_exposed he
    rw [exportEntries, get?_exportDescribed (by decide)]
    exact iff_of_false (get?_type_exportNullable _ "null") Bool.false_ne_true

theorem throughout_nullType : Throughout TypesDistinct nullType := by
  refine (Json.throughout_iff _ _).mpr ⟨Json.typesDistinct_of_ne_array nofun, nofun⟩

-- A layer that allows null names a type twice only if that is the type of null.
theorem throughout_exportNullable {inner : Entries Json} (h : ChoiceAlone inner) :
    Throughout TypesDistinct (.object (exportNullable .draft7 inner)) ↔
      inner.get? "type" ≠ some (.string "null") ∧ Throughout TypesDistinct (.object inner) := by
  have hsplit := fun entries => Json.throughout_iff TypesDistinct (.object entries)
  rcases exportNullable_draft7 inner with
    ⟨name, htype, he⟩ | ⟨members, htype, hmembers, he⟩ | ⟨htype, he⟩
  · have hnodup : TypesDistinct (.object (exportNullable .draft7 inner)) ↔ name ≠ "null" := by
      rw [TypesDistinct, he, Json.get?_object, Entries.get?_insert_self]
      simp
    have hinner : TypesDistinct (.object inner) := by
      apply Json.typesDistinct_of_ne_array
      rw [Json.get?_object, htype]
      nofun
    have hsame : subschemas (.object (exportNullable .draft7 inner)) =
        subschemas (.object inner) := by
      rw [he]
      exact Json.subschemas_congr fun _ hm => Entries.get?_insert_of_mem (by decide) hm inner _
    rw [hsplit, hsplit, hnodup, hsame, htype]
    simp [hinner]
  · have halone := h.of_anyOf hmembers
    have hafter : TypesDistinct (.object (exportNullable .draft7 inner)) := by
      apply Json.typesDistinct_of_ne_array
      rw [he, Json.get?_object, Entries.get?_insert_of_ne (by decide), halone "type" (by decide)]
      nofun
    have hinner : TypesDistinct (.object inner) := by
      apply Json.typesDistinct_of_ne_array
      rw [Json.get?_object, halone "type" (by decide)]
      nofun
    rw [hsplit, hsplit]
    simp only [hafter, hinner, true_and, htype "null", ne_eq, not_false_eq_true]
    rw [he, subschemas_insert_anyOf hmembers]
    simp [or_imp, forall_and, throughout_nullType]
  · have hafter : TypesDistinct (.object (exportNullable .draft7 inner)) := by
      apply Json.typesDistinct_of_ne_array
      rw [he]
      nofun
    have hboxed : subschemas (.object (exportNullable .draft7 inner)) =
        [.object inner, nullType] := by
      rw [he]
      rfl
    rw [hsplit, hboxed]
    simp [hafter, htype "null", throughout_nullType]

-- Whether null is allowed once more somewhere in a schema, of what is null anyway.
def AllowsNullTwice (schema : Schema) : Prop :=
  ∃ inner text, schema.Contains (.wrapped .nullable inner text) ∧ inner.exposed.onlyNull = true

theorem allowsNullTwice_iff (schema : Schema) :
    schema.AllowsNullTwice ↔
      (∃ inner text, schema = .wrapped .nullable inner text ∧ inner.exposed.onlyNull = true) ∨
        ∃ part ∈ schema.inside, part.AllowsNullTwice := by
  constructor
  · rintro ⟨inner, text, hcontains, hnull⟩
    rcases (contains_iff _ _).mp hcontains with rfl | ⟨part, hm, hpart⟩
    · exact .inl ⟨inner, text, rfl, hnull⟩
    · exact .inr ⟨part, hm, inner, text, hpart, hnull⟩
  · rintro (⟨inner, text, rfl, hnull⟩ | ⟨part, hm, inner, text, hpart, hnull⟩)
    · exact ⟨inner, text, (contains_iff _ _).mpr (.inl rfl), hnull⟩
    · exact ⟨inner, text, (contains_iff _ _).mpr (.inr ⟨part, hm, hpart⟩), hnull⟩

theorem allowsNullTwice_layer (wrapper : Wrapper) (inner : Schema) (text : Option String) :
    (wrapped wrapper inner text).AllowsNullTwice ↔
      wrapper = .nullable ∧ inner.exposed.onlyNull = true ∨ inner.AllowsNullTwice := by
  rw [allowsNullTwice_iff]
  constructor
  · rintro (⟨part, _, he, hnull⟩ | ⟨part, hm, hpart⟩)
    · cases he
      exact .inl ⟨rfl, hnull⟩
    · cases List.mem_singleton.mp hm
      exact .inr hpart
  · rintro (⟨rfl, hnull⟩ | h)
    · exact .inl ⟨inner, text, rfl, hnull⟩
    · exact .inr ⟨inner, List.mem_singleton.mpr rfl, h⟩

theorem throughout_layer (wrapper : Wrapper) (inner : Schema) (text : Option String) :
    Throughout TypesDistinct ((wrapped wrapper inner text).toJsonSchema .draft7) ↔
      ¬(wrapper = .nullable ∧ inner.exposed.onlyNull = true) ∧
        Throughout TypesDistinct (inner.toJsonSchema .draft7) := by
  have hdescribed : ∀ entries : Entries Json,
      Throughout TypesDistinct (.object (exportDescribed text entries)) ↔
        Throughout TypesDistinct (.object entries) := fun entries =>
    Json.throughout_typesDistinct_congr fun _ hm =>
      get?_exportDescribed_of_mem (by decide) hm text entries
  rw [toJsonSchema, toJsonSchema, exportEntries, hdescribed]
  cases wrapper with
  | optional | refine message => simp [exportWrapped]
  | default value =>
    have hdefault : ∀ key ∈ "type" :: Json.places,
        ((exportEntries .draft7 inner).insert "default" value).get? key =
          (exportEntries .draft7 inner).get? key :=
      fun key hm => Entries.get?_insert_of_mem (by decide) hm _ value
    rw [exportWrapped, Json.throughout_typesDistinct_congr hdefault]
    simp
  | nullable =>
    rw [exportWrapped, throughout_exportNullable (choiceAlone inner), ne_eq, get?_type_eq_null_iff]
    simp

theorem throughout_typesDistinct_iff (schema : Schema) :
    Throughout TypesDistinct (schema.toJsonSchema .draft7) ↔ ¬schema.AllowsNullTwice := by
  induction schema using layer_induction with
  | bare schema hbare ih =>
    have hroot : ¬∃ inner text, schema = .wrapped .nullable inner text ∧
        inner.exposed.onlyNull = true :=
      fun ⟨inner, text, he, _⟩ => hbare .nullable inner text he
    rw [Json.throughout_iff, subschemas_toJsonSchema .draft7 hbare, List.forall_mem_map,
      allowsNullTwice_iff, or_iff_right hroot]
    simp only [typesDistinct_toJsonSchema hbare, true_and, not_exists, not_and]
    exact forall₂_congr ih
  | layer wrapper inner text ih => rw [throughout_layer, allowsNullTwice_layer, not_or, ih]

-- The draft wants the types of a list to be distinct. They are, unless null is allowed of what is
-- null anyway.
theorem types_distinct_iff (schema : Schema) :
    (∀ part, Json.SchemaAt (schema.toJsonSchema .draft7) part →
      ∀ names, part.get? "type" = some (.array names) → names.Nodup) ↔
        ¬schema.AllowsNullTwice :=
  throughout_typesDistinct_iff schema

theorem nullable_null_repeats_type :
    ∃ names, (null.nullable.toJsonSchema .draft7).get? "type" = some (.array names) ∧
      ¬names.Nodup :=
  ⟨[.string "null", .string "null"], rfl, by simp⟩

end Schema

end ApiDescription
