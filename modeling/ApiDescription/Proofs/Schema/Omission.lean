import ApiDescription.Proofs.Schema.Constraints
import ApiDescription.Proofs.Schema.Place

namespace ApiDescription

namespace Json

-- Whether a value is one of some names.
def isNameIn (names : List String) : Json → Bool
  | string name => names.contains name
  | _ => false

mutual

-- A schema object without some names, be it the schema of the object itself or a choice of which
-- that is the first member.
def omitting (names : List String) : Json → Json
  | object entries => object (omittingEntries names entries)
  | other => other

def omittingEntries (names : List String) : List (String × Json) → List (String × Json)
  | [] => []
  | (key, value) :: rest =>
    match omittingAt names key value with
    | some left => (key, left) :: omittingEntries names rest
    | none => omittingEntries names rest

-- What is left of the value of a key if an object is to have nothing of some names. A list of
-- required names of which none is left goes with its key.
def omittingAt (names : List String) (key : String) : Json → Option Json
  | object properties =>
    some (object (if key = "properties" then Entries.without properties names else properties))
  | array items =>
    if key = "required" then
      let left := items.filter fun item => !item.isNameIn names
      if left = [] then none else some (array left)
    else if key = "anyOf" then some (array (omittingFirst names items))
    else some (array items)
  | value => some value

def omittingFirst (names : List String) : List Json → List Json
  | [] => []
  | first :: more => omitting names first :: more

end

variable {names : List String}

theorem exists_omittingAt {key : String} (hkey : key ≠ "required") (value : Json) :
    ∃ left, omittingAt names key value = some left := by
  cases value with
  | array items =>
    rw [omittingAt, if_neg hkey]
    split <;> exact ⟨_, rfl⟩
  | object | null | bool | number | string => exact ⟨_, rfl⟩

theorem omittingAt_of_notMem {key : String} (hkey : key ∉ ["properties", "required", "anyOf"])
    (value : Json) : omittingAt names key value = some value := by
  simp only [List.mem_cons, List.not_mem_nil, or_false, not_or] at hkey
  obtain ⟨hproperties, hrequired, hanyOf⟩ := hkey
  cases value with
  | object properties => rw [omittingAt, if_neg hproperties]
  | array items => rw [omittingAt, if_neg hrequired, if_neg hanyOf]
  | null | bool | number | string => rfl

theorem omittingEntries_insert {key : String} (hkey : key ≠ "required") {value left : Json}
    (h : omittingAt names key value = some left) (entries : Entries Json) :
    omittingEntries names (Entries.insert entries key value) =
      Entries.insert (omittingEntries names entries) key left := by
  induction entries with
  | nil => simp only [Entries.insert, omittingEntries, h]
  | cons entry rest ih =>
    obtain ⟨other, old⟩ := entry
    rw [Entries.insert, omittingEntries]
    by_cases hother : other = key
    · subst hother
      obtain ⟨kept, hkept⟩ := exists_omittingAt hkey old
      rw [if_pos rfl, omittingEntries, h, hkept, Entries.insert, if_pos rfl]
    · rw [if_neg hother, omittingEntries, ih]
      cases omittingAt names other old with
      | none => rfl
      | some kept => rw [Entries.insert, if_neg hother]

theorem get?_omittingEntries {key : String} (hkey : key ≠ "required") (entries : Entries Json) :
    Entries.get? (omittingEntries names entries) key =
      (Entries.get? entries key).bind (omittingAt names key) := by
  induction entries with
  | nil => rfl
  | cons entry rest ih =>
    obtain ⟨other, old⟩ := entry
    rw [omittingEntries, Entries.get?]
    by_cases hother : other = key
    · subst hother
      obtain ⟨kept, hkept⟩ := exists_omittingAt hkey old
      rw [if_pos rfl, hkept, Entries.get?, if_pos rfl, Option.bind_some, hkept]
    · rw [if_neg hother, ← ih]
      cases omittingAt names other old with
      | none => rfl
      | some kept => rw [Entries.get?, if_neg hother]

theorem contains_omittingEntries {key : String} (hkey : key ≠ "required") (entries : Entries Json) :
    Entries.contains (omittingEntries names entries) key = entries.contains key := by
  rw [Entries.contains, Entries.contains, get?_omittingEntries hkey]
  cases Entries.get? entries key with
  | none => rfl
  | some value =>
    obtain ⟨left, hleft⟩ := exists_omittingAt hkey value
    rw [Option.bind_some, hleft]
    rfl

end Json

namespace Schema

open Json (omittingAt omittingEntries omittingAt_of_notMem omittingEntries_insert)

variable {names : List String}

theorem omittingEntries_exportDescribed (text : Option String) (entries : Entries Json) :
    omittingEntries names (exportDescribed text entries) =
      exportDescribed text (omittingEntries names entries) := by
  cases text with
  | none => rfl
  | some text =>
    exact omittingEntries_insert (by decide) (omittingAt_of_notMem (by decide) _) entries

theorem omittingAt_choice (members : List Json) :
    omittingAt names "anyOf" (.array (members ++ [nullType])) =
      some (.array (Json.omittingFirst names members ++ [nullType])) := by
  cases members with
  | nil => simp [omittingAt, Json.omittingFirst, Json.omitting, nullType, omittingEntries]
  | cons first more => simp [omittingAt, Json.omittingFirst]

theorem omittingEntries_exportNullable (dialect : Dialect) (inner : Entries Json) :
    omittingEntries names (exportNullable dialect inner) =
      exportNullable dialect (omittingEntries names inner) := by
  cases dialect with
  | openApi3 =>
    have htype : Entries.contains (omittingEntries names inner) "type" = inner.contains "type" :=
      Json.contains_omittingEntries (by decide) inner
    have hanyOf : Entries.contains (omittingEntries names inner) "anyOf" = inner.contains "anyOf" :=
      Json.contains_omittingEntries (by decide) inner
    rw [exportNullable, exportNullable, htype, hanyOf]
    split
    · exact omittingEntries_insert (by decide) (omittingAt_of_notMem (by decide) _) inner
    · rfl
  | draft7 =>
    have htype : Entries.get? (omittingEntries names inner) "type" = inner.get? "type" := by
      rw [Json.get?_omittingEntries (by decide), funext (omittingAt_of_notMem (by decide)),
        Option.bind_fun_some]
    have hanyOf : Entries.get? (omittingEntries names inner) "anyOf" =
        (inner.get? "anyOf").bind (omittingAt names "anyOf") :=
      Json.get?_omittingEntries (by decide) inner
    by_cases hname : ∃ name, inner.get? "type" = some (.string name)
    · obtain ⟨name, hname⟩ := hname
      rw [exportNullable_of_type hname, exportNullable_of_type (htype.trans hname)]
      exact omittingEntries_insert (by decide) (omittingAt_of_notMem (by decide) _) inner
    rw [not_exists] at hname
    have hname' : ∀ name, Entries.get? (omittingEntries names inner) "type" ≠ some (.string name) :=
      fun name => htype ▸ hname name
    by_cases hmembers : ∃ members, inner.get? "anyOf" = some (.array members)
    · obtain ⟨members, hmembers⟩ := hmembers
      have hleft : Entries.get? (omittingEntries names inner) "anyOf" =
          some (.array (Json.omittingFirst names members)) := by
        rw [hanyOf, hmembers]
        rfl
      rw [exportNullable_of_choice hname hmembers, exportNullable_of_choice hname' hleft]
      exact omittingEntries_insert (by decide) (omittingAt_choice members) inner
    · rw [not_exists] at hmembers
      rw [exportNullable_of_neither hname hmembers, exportNullable_of_neither hname' ?_]
      · rfl
      · intro members hleft
        rw [hanyOf] at hleft
        obtain ⟨value, hvalue, hleft⟩ := Option.bind_eq_some_iff.mp hleft
        cases value with
        | array items => exact hmembers items hvalue
        | null | bool | number | string | object => cases hleft

theorem omittingEntries_exportWrapped (dialect : Dialect) (inner : Entries Json)
    (wrapper : Wrapper) :
    omittingEntries names (exportWrapped dialect inner wrapper) =
      exportWrapped dialect (omittingEntries names inner) wrapper := by
  cases wrapper with
  | optional | refine message => rfl
  | nullable => exact omittingEntries_exportNullable dialect inner
  | default value =>
    exact omittingEntries_insert (by decide) (omittingAt_of_notMem (by decide) _) inner

theorem exportEntries_within_omitting {dialect : Dialect} {node other : Schema}
    (h : other.exportEntries dialect = omittingEntries names (node.exportEntries dialect))
    (layers : List Layer) :
    (other.within layers).exportEntries dialect =
      omittingEntries names ((node.within layers).exportEntries dialect) := by
  induction layers with
  | nil => exact h
  | cons layer rest ih =>
    rw [within_cons, within_cons, exportEntries, exportEntries, ih,
      omittingEntries_exportDescribed, omittingEntries_exportWrapped]

theorem requiredNames_without (properties : Entries Schema) :
    requiredNames (properties.without names) =
      (requiredNames properties).filter fun name => !names.contains name := by
  rw [requiredNames, requiredNames, Entries.without, List.filter_map, List.filter_comm]
  rfl

theorem exportProperties_without (dialect : Dialect) (properties : Entries Schema) :
    exportProperties dialect (properties.without names) =
      Entries.without (exportProperties dialect properties) names := by
  rw [exportProperties_eq_map, exportProperties_eq_map, Entries.without, Entries.without,
    List.filter_map]
  rfl

theorem omittingAt_required (required : List String) :
    omittingAt names "required" (Json.strings required) =
      if (required.filter fun name => !names.contains name) = [] then none
      else some (Json.strings (required.filter fun name => !names.contains name)) := by
  have hleft : (required.map Json.string).filter (fun item => !item.isNameIn names) =
      (required.filter fun name => !names.contains name).map Json.string := by
    rw [List.filter_map]
    rfl
  rw [Json.strings, omittingAt, if_pos rfl, hleft]
  simp only [List.map_eq_nil_iff]
  rfl

theorem omittingEntries_exportObject (properties : Entries Json) (required : List String)
    (policy : UnknownKeys) :
    omittingEntries names (exportObject properties required policy) =
      exportObject (properties.without names)
        (required.filter fun name => !names.contains name) policy := by
  have hproperties : omittingAt names "properties" (.object properties) =
      some (.object (properties.without names)) := rfl
  rw [exportObject, exportObject]
  by_cases hnone : required = []
  · subst hnone
    rfl
  · rw [if_neg hnone]
    show omittingEntries names [("type", .string "object"), ("properties", .object properties),
      ("required", Json.strings required), ("additionalProperties", .bool _)] = _
    simp only [omittingEntries, hproperties, omittingAt_required]
    by_cases hleft : (required.filter fun name => !names.contains name) = []
    · rw [if_pos hleft, if_pos hleft]
      rfl
    · rw [if_neg hleft, if_neg hleft]
      rfl

theorem exportEntries_object_without (dialect : Dialect) (properties : Entries Schema)
    (policy : UnknownKeys) (text : Option String) :
    (object (properties.without names) policy text).exportEntries dialect =
      omittingEntries names ((object properties policy text).exportEntries dialect) := by
  rw [exportEntries, exportEntries, omittingEntries_exportDescribed, omittingEntries_exportObject,
    requiredNames_without, exportProperties_without]

-- A schema with an object under its layers, and what becomes of it without some properties.
theorem modify_without_of_object {schema : Schema} {properties : Entries Schema}
    {policy : UnknownKeys} {text : Option String}
    (h : schema.innermost = object properties policy text) (names : List String) :
    schema.modify (.without names) =
      (object (properties.without names) policy text).within schema.layers := by
  rw [← innermost_within_layers (schema.modify _), innermost_modify, layers_modify, h]
  rfl

theorem exportEntries_modify_without (dialect : Dialect) {schema : Schema}
    {properties : Entries Schema} {policy : UnknownKeys} {text : Option String}
    (h : schema.innermost = object properties policy text) (names : List String) :
    (schema.modify (.without names)).exportEntries dialect =
      omittingEntries names (schema.exportEntries dialect) := by
  have hschema := innermost_within_layers schema
  rw [h] at hschema
  rw [modify_without_of_object h]
  conv_rhs => rw [← hschema]
  exact exportEntries_within_omitting (exportEntries_object_without dialect properties policy text)
    schema.layers

-- Constraints on properties come to the same if they do to the properties.
theorem constrain_properties (schema : Schema) (ms others : List Modifier)
    (hms : ∀ m ∈ ms, m.facet = .properties) (hothers : ∀ m ∈ others, m.facet = .properties)
    (h : ∀ entries : Entries Schema, ms.foldl (fun entries m => m.onProperties entries) entries =
      others.foldl (fun entries m => m.onProperties entries) entries) :
    schema.constrain ms = schema.constrain others := by
  refine schema.constrain_eq fun facet => ?_
  by_cases hfacet : facet = .properties
  · subst hfacet
    simp only [Modifier.onProperties_eq] at h
    exact funext h
  · have hnone : ∀ run : List Modifier, (∀ m ∈ run, m.facet = .properties) →
        facet.constraints run = [] := by
      intro run hrun
      refine List.filter_eq_nil_iff.mpr fun m hm => ?_
      simpa using fun he => hfacet (he.symm.trans (hrun m hm))
    rw [← facet.after_constraints ms, ← facet.after_constraints others, hnone ms hms,
      hnone others hothers]

theorem modify_without_without (schema : Schema) (names others : List String) :
    (schema.modify (.without names)).modify (.without others) =
      schema.modify (.without (names ++ others)) :=
  schema.constrain_properties [.without names, .without others]
    [.without (names ++ others)] (by simp [Modifier.facet]) (by simp [Modifier.facet])
    fun entries => entries.without_without names others

theorem modify_extend_extend (schema : Schema) (first second : List (String × Schema)) :
    (schema.modify (.extend first)).modify (.extend second) =
      schema.modify (.extend (first ++ second)) :=
  schema.constrain_properties [.extend first, .extend second]
    [.extend (first ++ second)] (by simp [Modifier.facet]) (by simp [Modifier.facet])
    fun entries => (Entries.extend_append entries first second).symm

theorem modify_extend_without (schema : Schema) (more : List (String × Schema))
    (names : List String) :
    (schema.modify (.extend more)).modify (.without names) =
      (schema.modify (.without names)).modify (.extend (Entries.without more names)) :=
  schema.constrain_properties [.extend more, .without names]
    [.without names, .extend (Entries.without more names)]
    (by simp [Modifier.facet]) (by simp [Modifier.facet])
    fun entries => Entries.without_extend entries more names

-- Properties can be taken away and added in any order, and what is taken away is gone from what is
-- exported, wherever in it the object stands.
theorem properties_without_and_extend (schema : Schema) :
    (∀ names others : List String,
      (schema.modify (.without names)).modify (.without others) =
        schema.modify (.without (names ++ others))) ∧
    (∀ first second : List (String × Schema),
      (schema.modify (.extend first)).modify (.extend second) =
        schema.modify (.extend (first ++ second))) ∧
    (∀ (more : List (String × Schema)) (names : List String),
      (schema.modify (.extend more)).modify (.without names) =
        (schema.modify (.without names)).modify (.extend (Entries.without more names))) ∧
    (∀ listed : List (String × Schema),
      objectOf listed = (objectOf []).modify (.extend listed) ∧
      ∃ properties : Entries Schema, objectOf listed = object properties .strip none ∧
        properties.keys = (listed.map Prod.fst).eraseDups ∧
        ∀ name, properties.get? name = Entries.get? listed.reverse name) ∧
    ∀ (dialect : Dialect) (names : List String) (properties : Entries Schema)
      (policy : UnknownKeys) (text : Option String),
      schema.innermost = object properties policy text →
      (schema.modify (.without names)).toJsonSchema dialect =
        (schema.toJsonSchema dialect).omitting names := by
  refine ⟨modify_without_without schema, modify_extend_extend schema, modify_extend_without schema,
    fun listed => ⟨rfl, _, rfl, Entries.keys_ofList listed, Entries.get?_ofList listed⟩,
    fun dialect names properties policy text h => ?_⟩
  rw [toJsonSchema, toJsonSchema, exportEntries_modify_without dialect h, Json.omitting]

-- The list of required names goes with its last name, here within a choice that the second null
-- layer makes.
def memberProperties : List (String × Schema) := [
  ("id", string), ("email", string.optional), ("id", integer)]

def memberSchema : Schema :=
  (objectOf memberProperties).within [(.nullable, some "A member"), (.optional, none),
    (.nullable, none)]

theorem properties_without_and_extend_member :
    (objectOf memberProperties = object [("id", integer), ("email", string.optional)] .strip none) ∧
    memberSchema.innermost = object [("id", integer), ("email", string.optional)] .strip none ∧
    memberSchema.toJsonSchema .draft7 = .object [
      ("anyOf", .array [
        .object [
          ("type", .array [.string "object", .string "null"]),
          ("properties", .object [
            ("id", .object [("type", .string "integer")]),
            ("email", .object [("type", .string "string")])]),
          ("required", .array [.string "id"]),
          ("additionalProperties", .bool false)],
        .object [("type", .string "null")]]),
      ("description", .string "A member")] ∧
    (memberSchema.modify (.without ["name", "id", "id"])).toJsonSchema .draft7 =
      (memberSchema.toJsonSchema .draft7).omitting ["name", "id", "id"] ∧
    (memberSchema.toJsonSchema .draft7).omitting ["name", "id", "id"] = .object [
      ("anyOf", .array [
        .object [
          ("type", .array [.string "object", .string "null"]),
          ("properties", .object [("email", .object [("type", .string "string")])]),
          ("additionalProperties", .bool false)],
        .object [("type", .string "null")]]),
      ("description", .string "A member")] := by
  have hmember : memberSchema.innermost =
      object [("id", integer), ("email", string.optional)] .strip none := rfl
  obtain ⟨-, -, -, -, hexport⟩ := properties_without_and_extend memberSchema
  exact ⟨rfl, hmember, by rfl, hexport .draft7 ["name", "id", "id"] _ _ _ hmember, by rfl⟩

end Schema

end ApiDescription
