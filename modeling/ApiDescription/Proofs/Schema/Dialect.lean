import ApiDescription.Proofs.Json
import ApiDescription.Proofs.Schema.Induction

namespace ApiDescription

namespace Json

-- The schemas that stand directly inside of a schema. What stands under `default`, `enum` and
-- `const` is data, whatever it looks like.
def subschemas (schema : Json) : List Json :=
  (schema.get? "items").toList ++
    (match schema.get? "properties" with
      | some (object properties) => properties.map Prod.snd
      | _ => []) ++
    (match schema.get? "additionalProperties" with
      | some (object entries) => [object entries]
      | _ => []) ++
    (match schema.get? "anyOf" with
      | some (array members) => members
      | _ => [])

-- The schema itself, and all schemas inside of it at any depth.
inductive SchemaAt : Json → Json → Prop where
  | here (schema : Json) : SchemaAt schema schema
  | inside {schema inner part : Json} :
    inner ∈ schema.subschemas → SchemaAt inner part → SchemaAt schema part

-- The keys on which the rules below and the places of the inner schemas depend.
def keywords : List String := ["type", "anyOf", "const", "enum", "nullable", "minimum",
  "exclusiveMinimum", "maximum", "exclusiveMaximum", "items", "properties",
  "additionalProperties"]

-- What OpenAPI 3.0 asks of one schema object.
structure ObeysOpenApi3 (schema : Json) : Prop where
  object : ∃ entries : Entries Json, schema = object entries ∧ entries.Distinct
  const : schema.get? "const" = none
  type : ∀ value, schema.get? "type" = some value → ∃ name, value = string name
  type_or_anyOf : schema.get? "type" = none ∨ schema.get? "anyOf" = none
  exclusiveMinimum : ∀ value, schema.get? "exclusiveMinimum" = some value →
    value = bool true ∧ ∃ bound, schema.get? "minimum" = some (number bound)
  exclusiveMaximum : ∀ value, schema.get? "exclusiveMaximum" = some value →
    value = bool true ∧ ∃ bound, schema.get? "maximum" = some (number bound)
  nullable : ∀ value, schema.get? "nullable" = some value → value = bool true

-- What the seventh draft of JSON Schema asks of one.
structure ObeysDraft7 (schema : Json) : Prop where
  object : ∃ entries : Entries Json, schema = object entries ∧ entries.Distinct
  nullable : schema.get? "nullable" = none
  type : ∀ value, schema.get? "type" = some value →
    (∃ name, value = string name) ∨ ∃ name, value = array [string name, string "null"]
  type_or_anyOf : schema.get? "type" = none ∨ schema.get? "anyOf" = none
  exclusiveMinimum : ∀ value, schema.get? "exclusiveMinimum" = some value →
    (∃ bound, value = number bound) ∧ schema.get? "minimum" = none
  exclusiveMaximum : ∀ value, schema.get? "exclusiveMaximum" = some value →
    (∃ bound, value = number bound) ∧ schema.get? "maximum" = none
  const_or_enum : schema.get? "const" = none ∨ schema.get? "enum" = none

def Obeys : Dialect → Json → Prop
  | .openApi3 => ObeysOpenApi3
  | .draft7 => ObeysDraft7

-- A schema that obeys the rules all the way down.
def Sound (dialect : Dialect) (schema : Json) : Prop :=
  ∀ part, SchemaAt schema part → Obeys dialect part

theorem Sound.obeys {dialect : Dialect} {schema : Json} (h : Sound dialect schema) :
    Obeys dialect schema := h schema (.here schema)

theorem Sound.of_mem {dialect : Dialect} {schema inner : Json} (h : Sound dialect schema)
    (hm : inner ∈ schema.subschemas) : Sound dialect inner :=
  fun part hp => h part (.inside hm hp)

theorem sound_of_obeys {dialect : Dialect} {schema : Json} (h : Obeys dialect schema)
    (hinner : ∀ inner ∈ schema.subschemas, Sound dialect inner) : Sound dialect schema := by
  intro part hp
  cases hp with
  | here => exact h
  | inside hm hp => exact hinner _ hm part hp

theorem Obeys.distinct {dialect : Dialect} {entries : Entries Json}
    (h : Obeys dialect (.object entries)) : entries.Distinct := by
  have hobject : ∃ same : Entries Json, Json.object entries = .object same ∧ same.Distinct := by
    cases dialect with
    | openApi3 => exact h.object
    | draft7 => exact h.object
  obtain ⟨same, he, hd⟩ := hobject
  cases he
  exact hd

-- The rules say nothing about other keys, and little about the key that allows null.
theorem ObeysOpenApi3.congr {before after : Entries Json} (h : ObeysOpenApi3 (.object before))
    (hd : after.Distinct)
    (hk : ∀ key ∈ keywords, key ≠ "nullable" → after.get? key = before.get? key)
    (hnullable : ∀ value, after.get? "nullable" = some value → value = bool true) :
    ObeysOpenApi3 (.object after) := by
  have hkey : ∀ key ∈ keywords, key ≠ "nullable" →
      (Json.object after).get? key = (Json.object before).get? key := hk
  refine ⟨⟨after, rfl, hd⟩, ?_, ?_, ?_, ?_, ?_, hnullable⟩
  · rw [hkey "const" (by decide) (by decide)]
    exact h.const
  · rw [hkey "type" (by decide) (by decide)]
    exact h.type
  · rw [hkey "type" (by decide) (by decide), hkey "anyOf" (by decide) (by decide)]
    exact h.type_or_anyOf
  · rw [hkey "exclusiveMinimum" (by decide) (by decide), hkey "minimum" (by decide) (by decide)]
    exact h.exclusiveMinimum
  · rw [hkey "exclusiveMaximum" (by decide) (by decide), hkey "maximum" (by decide) (by decide)]
    exact h.exclusiveMaximum

-- Here null is allowed by another type or by another choice.
theorem ObeysDraft7.congr {before after : Entries Json} (h : ObeysDraft7 (.object before))
    (hd : after.Distinct)
    (hk : ∀ key ∈ keywords, key ≠ "type" → key ≠ "anyOf" → after.get? key = before.get? key)
    (htype : ∀ value, after.get? "type" = some value →
      (∃ name, value = string name) ∨ ∃ name, value = array [string name, string "null"])
    (hchoice : after.get? "type" = none ∨ after.get? "anyOf" = none) :
    ObeysDraft7 (.object after) := by
  have hkey : ∀ key ∈ keywords, key ≠ "type" → key ≠ "anyOf" →
      (Json.object after).get? key = (Json.object before).get? key := hk
  refine ⟨⟨after, rfl, hd⟩, ?_, htype, hchoice, ?_, ?_, ?_⟩
  · rw [hkey "nullable" (by decide) (by decide) (by decide)]
    exact h.nullable
  · rw [hkey "exclusiveMinimum" (by decide) (by decide) (by decide),
      hkey "minimum" (by decide) (by decide) (by decide)]
    exact h.exclusiveMinimum
  · rw [hkey "exclusiveMaximum" (by decide) (by decide) (by decide),
      hkey "maximum" (by decide) (by decide) (by decide)]
    exact h.exclusiveMaximum
  · rw [hkey "const" (by decide) (by decide) (by decide),
      hkey "enum" (by decide) (by decide) (by decide)]
    exact h.const_or_enum

theorem Obeys.of_keywords {dialect : Dialect} {before after : Entries Json}
    (h : Obeys dialect (object before)) (hd : after.Distinct)
    (hk : ∀ key ∈ keywords, after.get? key = before.get? key) : Obeys dialect (object after) := by
  cases dialect with
  | openApi3 =>
    have hbefore : ObeysOpenApi3 (object before) := h
    apply hbefore.congr hd fun key hm _ => hk key hm
    rw [hk "nullable" (by decide)]
    exact hbefore.nullable
  | draft7 =>
    have hbefore : ObeysDraft7 (object before) := h
    apply hbefore.congr hd fun key hm _ _ => hk key hm
    · rw [hk "type" (by decide)]
      exact hbefore.type
    · rw [hk "type" (by decide), hk "anyOf" (by decide)]
      exact hbefore.type_or_anyOf

-- A schema with a single type is fine in both dialects, as long as it has no bounds.
theorem obeys_of_type (dialect : Dialect) {entries : Entries Json} (names : List String)
    (hkeys : entries.keys.Sublist names) (hn : names.Nodup) {name : String}
    (htype : entries.get? "type" = some (string name))
    (hnames : ∀ key ∈ ["anyOf", "const", "nullable", "exclusiveMinimum", "exclusiveMaximum"],
      key ∉ names) : Obeys dialect (.object entries) := by
  have hd : entries.Distinct := distinct_of_keys hkeys hn
  have hnone : ∀ key ∈ ["anyOf", "const", "nullable", "exclusiveMinimum", "exclusiveMaximum"],
      entries.get? key = none := fun key hm => get?_of_keys hkeys (hnames key hm)
  have hname : ∀ value, entries.get? "type" = some value → value = string name := by
    intro value hv
    rw [htype] at hv
    exact (Option.some.inj hv).symm
  have habsent : ∀ {p : Json → Prop}, ∀ key ∈ ["exclusiveMinimum", "exclusiveMaximum"],
      ∀ value, entries.get? key = some value → p value := by
    intro p key hm value hv
    rw [hnone key (by simp at hm ⊢; tauto)] at hv
    cases hv
  cases dialect with
  | openApi3 =>
    exact ⟨⟨entries, rfl, hd⟩, hnone "const" (by decide), fun value hv => ⟨name, hname value hv⟩,
      .inr (hnone "anyOf" (by decide)), habsent "exclusiveMinimum" (by decide),
      habsent "exclusiveMaximum" (by decide), by simp [hnone "nullable" (by decide)]⟩
  | draft7 =>
    exact ⟨⟨entries, rfl, hd⟩, hnone "nullable" (by decide),
      fun value hv => .inl ⟨name, hname value hv⟩, .inr (hnone "anyOf" (by decide)),
      habsent "exclusiveMinimum" (by decide), habsent "exclusiveMaximum" (by decide),
      .inl (hnone "const" (by decide))⟩

-- A schema that allows everything.
theorem obeys_nil (dialect : Dialect) : Obeys dialect (.object []) := by
  cases dialect with
  | openApi3 => exact ⟨⟨[], rfl, .nil⟩, rfl, nofun, .inl rfl, nofun, nofun, nofun⟩
  | draft7 => exact ⟨⟨[], rfl, .nil⟩, rfl, nofun, .inl rfl, nofun, nofun, .inl rfl⟩

-- A choice between other schemas.
theorem obeys_of_anyOf (dialect : Dialect) (members : List Json) :
    Obeys dialect (.object [("anyOf", .array members)]) := by
  have hd : Entries.Distinct [("anyOf", Json.array members)] := by
    simp [Entries.Distinct, Entries.keys]
  cases dialect with
  | openApi3 =>
    refine ⟨⟨_, rfl, hd⟩, ?_, ?_, ?_, ?_, ?_, ?_⟩
    all_goals simp [Entries.get?]
  | draft7 =>
    refine ⟨⟨_, rfl, hd⟩, ?_, ?_, ?_, ?_, ?_, ?_⟩
    all_goals simp [Entries.get?]

-- The keys under which the inner schemas stand.
def places : List String := ["items", "properties", "additionalProperties", "anyOf"]

theorem places_subset : places ⊆ keywords := by decide

theorem subschemas_congr {before after : Entries Json}
    (h : ∀ key ∈ places, after.get? key = before.get? key) :
    (Json.object after).subschemas = (Json.object before).subschemas := by
  have hkey : ∀ key ∈ places, (Json.object after).get? key = (Json.object before).get? key := h
  rw [subschemas, subschemas, hkey "items" (by decide), hkey "properties" (by decide),
    hkey "additionalProperties" (by decide), hkey "anyOf" (by decide)]

theorem subschemas_of_keys {entries : Entries Json} {names : List String}
    (hkeys : entries.keys.Sublist names) (hnames : ∀ key ∈ places, key ∉ names) :
    (Json.object entries).subschemas = [] := by
  have h : (Json.object entries).subschemas = (Json.object []).subschemas :=
    subschemas_congr fun key hm => get?_of_keys hkeys (hnames key hm)
  exact h

-- A schema without inner schemas.
theorem sound_of_keys {dialect : Dialect} {entries : Entries Json} {names : List String}
    (h : Obeys dialect (.object entries)) (hkeys : entries.keys.Sublist names)
    (hnames : ∀ key ∈ places, key ∉ names) : Sound dialect (.object entries) := by
  apply sound_of_obeys h
  rw [subschemas_of_keys hkeys hnames]
  exact fun inner hm => nomatch hm

theorem Sound.insert {dialect : Dialect} {entries : Entries Json} {key : String}
    (h : Sound dialect (.object entries)) (hkey : key ∉ keywords) (value : Json) :
    Sound dialect (.object (entries.insert key value)) := by
  have hk : ∀ other ∈ keywords, (entries.insert key value).get? other = entries.get? other :=
    fun other hm => Entries.get?_insert_of_mem hkey hm entries value
  apply sound_of_obeys
  · exact h.obeys.of_keywords (Entries.distinct_insert h.obeys.distinct key value) hk
  · rw [subschemas_congr fun other hm => hk other (places_subset hm)]
    exact fun inner hm => h.of_mem hm

end Json

namespace Schema

open Json (Obeys Sound subschemas field field?)

theorem get?_object_present (entries : List (Option (String × Json))) (key : String) :
    (Json.object (present entries)).get? key = (Json.present entries).get? key := rfl

theorem keys_exportString (limits : StringLimits) : (exportString limits).keys.Sublist
    ["type", "format", "minLength", "maxLength", "pattern"] :=
  Json.keys_filterMap_field (Json.keys_filterMap_field? (Json.keys_filterMap_field?
    (Json.keys_filterMap_field? (Json.keys_filterMap_field? Json.keys_filterMap_nil
      "pattern" limits.pattern .string) "maxLength" limits.maxLength count)
      "minLength" limits.minLength count) "format" limits.format fun format => .string format.text)
      "type" (.string "string")

theorem keys_boundEntries (dialect : Dialect) (name exclusiveName : String)
    (bound : Option Bound) :
    (Entries.keys ((boundEntries dialect name exclusiveName bound).filterMap id)).Sublist
      [exclusiveName, name] := by
  rcases bound with _ | ⟨value, _ | _⟩ <;> cases dialect <;>
    simp [boundEntries, Json.field, Entries.keys]

theorem keys_exportNumber (dialect : Dialect) (limits : NumberLimits) :
    (exportNumber dialect limits).keys.Sublist
      ["type", "exclusiveMinimum", "minimum", "exclusiveMaximum", "maximum", "multipleOf"] := by
  have htype := Json.keys_filterMap_field Json.keys_filterMap_nil "type"
    (.string (if limits.integer then "integer" else "number"))
  have hminimum := keys_boundEntries dialect "minimum" "exclusiveMinimum" limits.minimum
  have hmaximum := keys_boundEntries dialect "maximum" "exclusiveMaximum" limits.maximum
  have hstep := Json.keys_filterMap_field? Json.keys_filterMap_nil "multipleOf" limits.multipleOf
    .number
  exact Json.keys_filterMap_append (Json.keys_filterMap_append
    (Json.keys_filterMap_append htype hminimum) hmaximum) hstep

theorem keys_exportArray (items : Entries Json) (limits : ArrayLimits) :
    (exportArray items limits).keys.Sublist ["type", "items", "minItems", "maxItems"] :=
  Json.keys_filterMap_field (Json.keys_filterMap_field
    (Json.keys_filterMap_field? (Json.keys_filterMap_field? Json.keys_filterMap_nil
      "maxItems" limits.maxItems count) "minItems" limits.minItems count)
      "items" (.object items)) "type" (.string "array")

theorem keys_exportObject (properties : Entries Json) (required : List String)
    (policy : UnknownKeys) : (exportObject properties required policy).keys.Sublist
      ["type", "properties", "required", "additionalProperties"] := by
  have hlast := Json.keys_filterMap_field Json.keys_filterMap_nil "additionalProperties"
    (.bool (policy = .passthrough))
  rw [exportObject, present]
  by_cases hr : required = []
  · rw [if_pos hr]
    exact Json.keys_filterMap_field (Json.keys_filterMap_field
      (Json.keys_filterMap_none hlast "required") "properties" (.object properties))
      "type" (.string "object")
  · rw [if_neg hr]
    exact Json.keys_filterMap_field (Json.keys_filterMap_field
      (Json.keys_filterMap_field hlast "required" (Json.strings required))
      "properties" (.object properties)) "type" (.string "object")

theorem sound_exportString (dialect : Dialect) (limits : StringLimits) :
    Sound dialect (.object (exportString limits)) := by
  have hkeys := keys_exportString limits
  exact Json.sound_of_keys (Json.obeys_of_type dialect _ hkeys (by decide) rfl (by decide)) hkeys
    (by decide)

theorem sound_exportNumber (dialect : Dialect) (limits : NumberLimits) :
    Sound dialect (.object (exportNumber dialect limits)) := by
  have hkeys := keys_exportNumber dialect limits
  have hd : (exportNumber dialect limits).Distinct := Json.distinct_of_keys hkeys (by decide)
  refine Json.sound_of_keys ?_ hkeys (by decide)
  -- Each of the bounds is absent, inclusive or exclusive.
  obtain ⟨integer, minimum, maximum, multipleOf⟩ := limits
  cases dialect with
  | openApi3 =>
    refine ⟨⟨_, rfl, hd⟩, ?_, ?_, ?_, ?_, ?_, ?_⟩ <;>
      rcases minimum with _ | ⟨minimum, _ | _⟩ <;> rcases maximum with _ | ⟨maximum, _ | _⟩ <;>
      simp [exportNumber, boundEntries, -Json.get?_object, get?_object_present, typed]
  | draft7 =>
    refine ⟨⟨_, rfl, hd⟩, ?_, ?_, ?_, ?_, ?_, ?_⟩ <;>
      rcases minimum with _ | ⟨minimum, _ | _⟩ <;> rcases maximum with _ | ⟨maximum, _ | _⟩ <;>
      simp [exportNumber, boundEntries, -Json.get?_object, get?_object_present, typed]

theorem sound_exportNull (dialect : Dialect) : Sound dialect (.object (exportNull dialect)) := by
  cases dialect with
  | openApi3 =>
    refine Json.sound_of_keys ⟨⟨_, rfl, by decide⟩, ?_, ?_, ?_, ?_, ?_, ?_⟩ (.refl _) (by decide)
    all_goals simp [exportNull, Entries.get?]
  | draft7 =>
    have hkeys : (exportNull .draft7).keys.Sublist ["type"] := .refl _
    exact Json.sound_of_keys (Json.obeys_of_type .draft7 _ hkeys (by decide) rfl (by decide))
      hkeys (by decide)

-- What the export of a literal is for every value but null.
def singleValue (dialect : Dialect) (value : Json) : Entries Json :=
  present [field? "type" (literalType value) .string,
    match dialect with
    | .openApi3 => field "enum" (.array [value])
    | .draft7 => field "const" value]

theorem exportLiteral_cases (dialect : Dialect) (value : Json) :
    exportLiteral dialect value = exportNull dialect ∨
      exportLiteral dialect value = singleValue dialect value := by
  cases value with
  | null => exact .inl rfl
  | bool | number | string | array | object => exact .inr rfl

theorem keys_singleValue (dialect : Dialect) (value : Json) :
    (singleValue dialect value).keys.Sublist ["type", "enum", "const"] := by
  have hnil := Json.keys_filterMap_nil
  cases dialect with
  | openApi3 =>
    have henum := Json.keys_filterMap_field (hnil.cons "const") "enum" (.array [value])
    exact Json.keys_filterMap_field? henum "type" (literalType value) .string
  | draft7 =>
    have hconst := (Json.keys_filterMap_field hnil "const" value).cons "enum"
    exact Json.keys_filterMap_field? hconst "type" (literalType value) .string

theorem sound_singleValue (dialect : Dialect) (value : Json) :
    Sound dialect (.object (singleValue dialect value)) := by
  have hkeys := keys_singleValue dialect value
  have hd : (singleValue dialect value).Distinct := Json.distinct_of_keys hkeys (by decide)
  cases dialect with
  | openApi3 =>
    refine Json.sound_of_keys ⟨⟨_, rfl, hd⟩, ?_, ?_, ?_, ?_, ?_, ?_⟩ hkeys (by decide)
    all_goals simp [singleValue, -Json.get?_object, get?_object_present]
  | draft7 =>
    refine Json.sound_of_keys ⟨⟨_, rfl, hd⟩, ?_, ?_, ?_, ?_, ?_, ?_⟩ hkeys (by decide)
    all_goals simp [singleValue, -Json.get?_object, get?_object_present]

theorem sound_exportLeaf (dialect : Dialect) (kind : Leaf) :
    Sound dialect (.object (exportLeaf dialect kind)) := by
  cases kind with
  | string limits => exact sound_exportString dialect limits
  | number limits => exact sound_exportNumber dialect limits
  | boolean =>
    have hkeys : (exportLeaf dialect .boolean).keys.Sublist ["type"] := .refl _
    exact Json.sound_of_keys (Json.obeys_of_type dialect _ hkeys (by decide) rfl (by decide))
      hkeys (by decide)
  | null => exact sound_exportNull dialect
  | literal value =>
    rw [exportLeaf]
    rcases exportLiteral_cases dialect value with h | h
    · rw [h]
      exact sound_exportNull dialect
    · rw [h]
      exact sound_singleValue dialect value
  | enumeration values =>
    have hkeys : (exportLeaf dialect (.enumeration values)).keys.Sublist ["type", "enum"] :=
      .refl _
    exact Json.sound_of_keys (Json.obeys_of_type dialect _ hkeys (by decide) rfl (by decide))
      hkeys (by decide)
  | void | any => exact Json.sound_of_keys (Json.obeys_nil dialect) .slnil (by decide)

theorem subschemas_exportArray (items : Entries Json) (limits : ArrayLimits) :
    subschemas (.object (exportArray items limits)) = [.object items] := by
  simp [subschemas, exportArray, -Json.get?_object, get?_object_present, typed]

theorem sound_exportArray {dialect : Dialect} {items : Entries Json}
    (h : Sound dialect (.object items)) (limits : ArrayLimits) :
    Sound dialect (.object (exportArray items limits)) := by
  have hkeys := keys_exportArray items limits
  apply Json.sound_of_obeys (Json.obeys_of_type dialect _ hkeys (by decide) rfl (by decide))
  rw [subschemas_exportArray]
  exact List.forall_mem_singleton.mpr h

theorem get?_properties_exportObject (properties : Entries Json) (required : List String)
    (policy : UnknownKeys) :
    (exportObject properties required policy).get? "properties" = some (.object properties) := rfl

theorem get?_required_exportObject (properties : Entries Json) (required : List String)
    (policy : UnknownKeys) : (exportObject properties required policy).get? "required" =
      if required = [] then none else some (Json.strings required) := by
  rw [← Json.get?_object, exportObject, get?_object_present]
  by_cases h : required = [] <;> simp [h, typed]

theorem get?_others_exportObject (properties : Entries Json) (required : List String)
    (policy : UnknownKeys) : (exportObject properties required policy).get?
      "additionalProperties" = some (.bool (policy = .passthrough)) := by
  rw [← Json.get?_object, exportObject, get?_object_present]
  by_cases h : required = [] <;> simp [h, typed]

theorem subschemas_exportObject (properties : Entries Json) (required : List String)
    (policy : UnknownKeys) : subschemas (.object (exportObject properties required policy)) =
      properties.map Prod.snd := by
  have hkeys := keys_exportObject properties required policy
  have hitems : (exportObject properties required policy).get? "items" = none :=
    Json.get?_of_keys hkeys (by decide)
  have hanyOf : (exportObject properties required policy).get? "anyOf" = none :=
    Json.get?_of_keys hkeys (by decide)
  simp [subschemas, hitems, hanyOf, get?_properties_exportObject, get?_others_exportObject]

theorem sound_exportObject {dialect : Dialect} {properties : Entries Json}
    (h : ∀ property ∈ properties, Sound dialect property.2) (required : List String)
    (policy : UnknownKeys) :
    Sound dialect (.object (exportObject properties required policy)) := by
  have hkeys := keys_exportObject properties required policy
  apply Json.sound_of_obeys (Json.obeys_of_type dialect _ hkeys (by decide) rfl (by decide))
  rw [subschemas_exportObject]
  intro inner hm
  obtain ⟨property, hp, rfl⟩ := List.mem_map.mp hm
  exact h property hp

theorem sound_exportRecord {dialect : Dialect} {values : Entries Json}
    (h : Sound dialect (.object values)) :
    Sound dialect (.object [("type", .string "object"),
      ("additionalProperties", .object values)]) := by
  have hkeys : Entries.keys [("type", Json.string "object"),
      ("additionalProperties", .object values)] |>.Sublist ["type", "additionalProperties"] :=
    .refl _
  apply Json.sound_of_obeys (Json.obeys_of_type dialect _ hkeys (by decide) rfl (by decide))
  exact List.forall_mem_singleton.mpr h

theorem sound_anyOf {dialect : Dialect} {members : List Json}
    (h : ∀ member ∈ members, Sound dialect member) :
    Sound dialect (.object [("anyOf", .array members)]) :=
  Json.sound_of_obeys (Json.obeys_of_anyOf dialect members) h

-- The flag stands beside a type or a choice, and no inner schema is touched.
theorem sound_insert_nullable {inner : Entries Json} (h : Sound .openApi3 (.object inner)) :
    Sound .openApi3 (.object (inner.insert "nullable" (.bool true))) := by
  have hobeys : Json.ObeysOpenApi3 (.object inner) := h.obeys
  have hother : ∀ key, key ≠ "nullable" →
      (inner.insert "nullable" (.bool true)).get? key = inner.get? key :=
    fun key hne => Entries.get?_insert_of_ne hne inner _
  apply Json.sound_of_obeys
  · apply hobeys.congr (Entries.distinct_insert h.obeys.distinct _ _) fun key _ => hother key
    intro value hv
    rw [Entries.get?_insert_self] at hv
    exact (Option.some.inj hv).symm
  · rw [Json.subschemas_congr fun key hm => hother key (by rintro rfl; simp [Json.places] at hm)]
    exact fun part hm => h.of_mem hm

-- A type becomes a pair of types.
theorem sound_insert_type {inner : Entries Json} (h : Sound .draft7 (.object inner))
    {name : String} (htype : inner.get? "type" = some (.string name)) :
    Sound .draft7 (.object (inner.insert "type" (.array [.string name, .string "null"]))) := by
  have hobeys : Json.ObeysDraft7 (.object inner) := h.obeys
  have hother : ∀ key, key ≠ "type" →
      (inner.insert "type" (.array [.string name, .string "null"])).get? key = inner.get? key :=
    fun key hne => Entries.get?_insert_of_ne hne inner _
  have hchoice : inner.get? "anyOf" = none := by
    rcases hobeys.type_or_anyOf with hnone | hnone
    · rw [Json.get?_object, htype] at hnone
      cases hnone
    · exact hnone
  apply Json.sound_of_obeys
  · apply hobeys.congr (Entries.distinct_insert h.obeys.distinct _ _) fun key _ hne _ =>
      hother key hne
    · intro value hv
      rw [Entries.get?_insert_self] at hv
      exact .inr ⟨name, (Option.some.inj hv).symm⟩
    · rw [hother "anyOf" (by decide)]
      exact .inr hchoice
  · rw [Json.subschemas_congr fun key hm => hother key (by rintro rfl; simp [Json.places] at hm)]
    exact fun part hm => h.of_mem hm

theorem sound_nullType : Sound .draft7 nullType := by
  have hkeys : Entries.keys [("type", Json.string "null")] |>.Sublist ["type"] := .refl _
  exact Json.sound_of_keys (Json.obeys_of_type .draft7 _ hkeys (by decide) rfl (by decide)) hkeys
    (by decide)

theorem subschemas_insert_anyOf {inner : Entries Json} {members : List Json}
    (hmembers : inner.get? "anyOf" = some (.array members)) :
    subschemas (.object (inner.insert "anyOf" (.array (members ++ [nullType])))) =
      subschemas (.object inner) ++ [nullType] := by
  have hother : ∀ key, key ≠ "anyOf" →
      (inner.insert "anyOf" (.array (members ++ [nullType]))).get? key = inner.get? key :=
    fun key hne => Entries.get?_insert_of_ne hne inner _
  have hsame : (inner.insert "anyOf" (.array (members ++ [nullType]))).get? "anyOf" =
      some (.array (members ++ [nullType])) :=
    Entries.get?_insert_self inner "anyOf" _
  simp only [subschemas, Json.get?_object, hsame, hmembers, hother "items" (by decide),
    hother "properties" (by decide), hother "additionalProperties" (by decide),
    List.append_assoc]

-- A choice gets null as one more member.
theorem sound_insert_anyOf {inner : Entries Json} (h : Sound .draft7 (.object inner))
    {members : List Json} (hmembers : inner.get? "anyOf" = some (.array members)) :
    Sound .draft7 (.object (inner.insert "anyOf" (.array (members ++ [nullType])))) := by
  have hobeys : Json.ObeysDraft7 (.object inner) := h.obeys
  have hother : ∀ key, key ≠ "anyOf" →
      (inner.insert "anyOf" (.array (members ++ [nullType]))).get? key = inner.get? key :=
    fun key hne => Entries.get?_insert_of_ne hne inner _
  have htype : inner.get? "type" = none := by
    rcases hobeys.type_or_anyOf with hnone | hnone
    · exact hnone
    · rw [Json.get?_object, hmembers] at hnone
      cases hnone
  apply Json.sound_of_obeys
  · apply hobeys.congr (Entries.distinct_insert h.obeys.distinct _ _) fun key _ _ hne =>
      hother key hne
    · rw [hother "type" (by decide), htype]
      exact nofun
    · rw [hother "type" (by decide)]
      exact .inl htype
  · rw [subschemas_insert_anyOf hmembers]
    intro part hm
    rcases List.mem_append.mp hm with hm | hm
    · exact h.of_mem hm
    · rw [List.mem_singleton.mp hm]
      exact sound_nullType

theorem sound_exportNullable {dialect : Dialect} {inner : Entries Json}
    (h : Sound dialect (.object inner)) :
    Sound dialect (.object (exportNullable dialect inner)) := by
  cases dialect with
  | openApi3 =>
    simp only [exportNullable]
    split
    · exact sound_insert_nullable h
    · apply Json.sound_of_obeys
      · refine ⟨⟨_, rfl, by simp [Entries.Distinct, Entries.keys]⟩, ?_, ?_, ?_, ?_, ?_, ?_⟩
        all_goals simp [Entries.get?]
      · exact List.forall_mem_singleton.mpr h
  | draft7 =>
    simp only [exportNullable]
    split
    · rename_i htype
      exact sound_insert_type h htype
    · rename_i hmembers _
      exact sound_insert_anyOf h hmembers
    · apply sound_anyOf
      simp [h, sound_nullType]

theorem sound_exportWrapped {dialect : Dialect} {inner : Entries Json}
    (h : Sound dialect (.object inner)) (wrapper : Wrapper) :
    Sound dialect (.object (exportWrapped dialect inner wrapper)) := by
  cases wrapper with
  | optional | refine _ => exact h
  | default value => exact h.insert (by decide) value
  | nullable => exact sound_exportNullable h

theorem sound_exportDescribed {dialect : Dialect} {entries : Entries Json}
    (h : Sound dialect (.object entries)) (text : Option String) :
    Sound dialect (.object (exportDescribed text entries)) := by
  cases text with
  | none => exact h
  | some text => exact h.insert (by decide) (.string text)

theorem sound_toJsonSchema (dialect : Dialect) (schema : Schema) :
    Sound dialect (schema.toJsonSchema dialect) := by
  rw [toJsonSchema]
  induction schema using Schema.induction with
  | leaf kind text => exact sound_exportDescribed (sound_exportLeaf dialect kind) text
  | array items limits text ih => exact sound_exportDescribed (sound_exportArray ih limits) text
  | object properties policy text ih =>
    apply sound_exportDescribed
    apply sound_exportObject
    rw [exportProperties_eq_map]
    intro property hm
    obtain ⟨source, hsource, rfl⟩ := List.mem_map.mp hm
    exact ih source hsource
  | record values text ih => exact sound_exportDescribed (sound_exportRecord ih) text
  | union options text ih =>
    apply sound_exportDescribed
    apply sound_anyOf
    rw [exportOptions_eq_map]
    intro member hm
    obtain ⟨option, hoption, rfl⟩ := List.mem_map.mp hm
    exact ih option hoption
  | wrapped wrapper inner text ih =>
    exact sound_exportDescribed (sound_exportWrapped ih wrapper) text

end Schema

end ApiDescription
