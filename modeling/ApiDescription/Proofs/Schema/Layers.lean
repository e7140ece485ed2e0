import ApiDescription.Proofs.Schema.Dialect

namespace ApiDescription

-- The name that a leaf gives to its type in the seventh draft.
def Leaf.typeName? : Leaf → Option String
  | string _ | enumeration _ => some "string"
  | number limits => some (if limits.integer then "integer" else "number")
  | boolean => some "boolean"
  | null | literal .null => some "null"
  | literal value => Schema.literalType value
  | void | any => none

namespace Schema

theorem get?_type_exportLeaf (kind : Leaf) :
    (exportLeaf .draft7 kind).get? "type" = kind.typeName?.map .string := by
  cases kind with
  | literal value => cases value <;> rfl
  | string | number | boolean | null | enumeration | void | any => rfl

theorem get?_exportDescribed {key : String} (hkey : key ≠ "description") (text : Option String)
    (entries : Entries Json) : (exportDescribed text entries).get? key = entries.get? key := by
  cases text with
  | none => rfl
  | some text => exact Entries.get?_insert_of_ne hkey entries _

theorem get?_exportDescribed_of_mem {names : List String} (hnames : "description" ∉ names)
    {key : String} (hm : key ∈ names) (text : Option String) (entries : Entries Json) :
    (exportDescribed text entries).get? key = entries.get? key :=
  get?_exportDescribed (fun he => hnames (he ▸ hm)) text entries

-- Nothing stands in a node without an inner schema.
theorem get?_exportLeaf {key : String} (hm : key ∈ Json.places) (dialect : Dialect) (kind : Leaf) :
    (exportLeaf dialect kind).get? key = none := by
  have hnone : ∀ {entries : Entries Json} (names : List String), entries.keys.Sublist names →
      (∀ key ∈ Json.places, key ∉ names) → entries.get? key = none :=
    fun names hkeys hnames => Json.get?_of_keys hkeys (hnames key hm)
  have hnull : (exportNull dialect).get? key = none := by
    cases dialect with
    | openApi3 => exact hnone ["enum", "nullable"] (.refl _) (by decide)
    | draft7 => exact hnone ["type"] (.refl _) (by decide)
  cases kind with
  | string limits => exact hnone _ (keys_exportString limits) (by decide)
  | number limits => exact hnone _ (keys_exportNumber dialect limits) (by decide)
  | boolean => exact hnone ["type"] (.refl _) (by decide)
  | null => exact hnull
  | literal value =>
    rw [exportLeaf]
    rcases exportLiteral_cases dialect value with h | h
    · rw [h, hnull]
    · rw [h]
      exact hnone _ (keys_singleValue dialect value) (by decide)
  | enumeration values => exact hnone ["type", "enum"] (.refl _) (by decide)
  | void | any => rfl

-- The node that gives a schema its type. The layers around it say only that the value may be
-- absent, or that it is checked once more.
def exposed : Schema → Schema
  | wrapped .optional inner _ | wrapped (.default _) inner _ | wrapped (.refine _) inner _ =>
    inner.exposed
  | other => other

theorem eq_nullable_of_exposed {schema inner : Schema} {wrapper : Wrapper} {text : Option String}
    (h : schema.exposed = .wrapped wrapper inner text) : wrapper = .nullable := by
  fun_induction exposed schema with
  | case1 part _ ih | case2 part _ _ ih | case3 part _ _ ih => exact ih h
  | case4 other hoptional hdefault hrefine =>
    subst h
    cases wrapper with
    | optional => exact absurd rfl (hoptional inner text)
    | default value => exact absurd rfl (hdefault value inner text)
    | refine message => exact absurd rfl (hrefine message inner text)
    | nullable => rfl

theorem get?_exportEntries_exposed (dialect : Dialect) {key : String} (hkey : key ≠ "description")
    (hdefault : key ≠ "default") (schema : Schema) :
    (exportEntries dialect schema.exposed).get? key = (exportEntries dialect schema).get? key := by
  fun_induction exposed schema with
  | case1 part text ih | case3 _ part text ih =>
    rw [ih, exportEntries, get?_exportDescribed hkey]
    rfl
  | case2 value part text ih =>
    rw [ih, exportEntries, get?_exportDescribed hkey, exportWrapped, Entries.get?_insert,
      if_neg hdefault.symm]
  | case4 => rfl

-- In the one dialect a flag allows null, beside a type or a choice.
theorem get?_nullable_exportNullable (inner : Entries Json) :
    (exportNullable .openApi3 inner).get? "nullable" = some (.bool true) := by
  rw [exportNullable]
  split
  · exact Entries.get?_insert_self _ _ _
  · rfl

-- The three ways to allow null in the other one: a second type, one more member of a choice,
-- a choice of its own.
theorem exportNullable_of_type {inner : Entries Json} {name : String}
    (h : inner.get? "type" = some (.string name)) :
    exportNullable .draft7 inner = inner.insert "type" (.array [.string name, .string "null"]) := by
  rw [exportNullable]
  simp only [h]

theorem exportNullable_of_choice {inner : Entries Json} {members : List Json}
    (htype : ∀ name, inner.get? "type" ≠ some (.string name))
    (h : inner.get? "anyOf" = some (.array members)) :
    exportNullable .draft7 inner = inner.insert "anyOf" (.array (members ++ [nullType])) := by
  rw [exportNullable]
  split
  · exact absurd ‹_› (htype _)
  · simp_all
  · simp_all

theorem exportNullable_of_neither {inner : Entries Json}
    (htype : ∀ name, inner.get? "type" ≠ some (.string name))
    (h : ∀ members, inner.get? "anyOf" ≠ some (.array members)) :
    exportNullable .draft7 inner = [("anyOf", .array [.object inner, nullType])] := by
  rw [exportNullable]
  split
  · exact absurd ‹_› (htype _)
  · exact absurd ‹_› (h _)
  · rfl

theorem exportNullable_draft7 (inner : Entries Json) :
    (∃ name, inner.get? "type" = some (.string name) ∧ exportNullable .draft7 inner =
      inner.insert "type" (.array [.string name, .string "null"])) ∨
    (∃ members, (∀ name, inner.get? "type" ≠ some (.string name)) ∧
      inner.get? "anyOf" = some (.array members) ∧ exportNullable .draft7 inner =
        inner.insert "anyOf" (.array (members ++ [nullType]))) ∨
    (∀ name, inner.get? "type" ≠ some (.string name)) ∧
      exportNullable .draft7 inner = [("anyOf", .array [.object inner, nullType])] := by
  by_cases htype : ∃ name, inner.get? "type" = some (.string name)
  · obtain ⟨name, htype⟩ := htype
    exact .inl ⟨name, htype, exportNullable_of_type htype⟩
  rw [not_exists] at htype
  by_cases hmembers : ∃ members, inner.get? "anyOf" = some (.array members)
  · obtain ⟨members, hmembers⟩ := hmembers
    exact .inr (.inl ⟨members, htype, hmembers, exportNullable_of_choice htype hmembers⟩)
  · rw [not_exists] at hmembers
    exact .inr (.inr ⟨htype, exportNullable_of_neither htype hmembers⟩)

theorem get?_type_exportNullable (inner : Entries Json) (name : String) :
    (exportNullable .draft7 inner).get? "type" ≠ some (.string name) := by
  rcases exportNullable_draft7 inner with ⟨_, _, h⟩ | ⟨_, htype, _, h⟩ | ⟨_, h⟩
  · rw [h, Entries.get?_insert_self]
    nofun
  · rw [h, Entries.get?_insert_of_ne (by decide)]
    exact htype name
  · rw [h]
    nofun

-- A choice stands alone, without a type and without values.
def ChoiceAlone (entries : Entries Json) : Prop :=
  entries.get? "anyOf" = none ∨ ∀ key ∈ ["type", "enum", "const"], entries.get? key = none

theorem choiceAlone_of_keys {entries : Entries Json} {names : List String}
    (hkeys : entries.keys.Sublist names) (h : "anyOf" ∉ names) : ChoiceAlone entries :=
  .inl (Json.get?_of_keys hkeys h)

theorem choiceAlone_anyOf (members : Json) : ChoiceAlone [("anyOf", members)] :=
  .inr (by simp [Entries.get?])

theorem ChoiceAlone.insert {entries : Entries Json} (h : ChoiceAlone entries) {key : String}
    (hkey : key ∉ ["anyOf", "type", "enum", "const"]) (value : Json) :
    ChoiceAlone (entries.insert key value) := by
  have hother : ∀ other ∈ ["anyOf", "type", "enum", "const"],
      (entries.insert key value).get? other = entries.get? other :=
    fun other hm => Entries.get?_insert_of_mem hkey hm entries value
  rcases h with h | h
  · exact .inl ((hother "anyOf" (.head _)).trans h)
  · exact .inr fun other hm => (hother other (.tail _ hm)).trans (h other hm)

theorem ChoiceAlone.of_type {entries : Entries Json} (h : ChoiceAlone entries) {type : Json}
    (htype : entries.get? "type" = some type) : entries.get? "anyOf" = none := by
  rcases h with h | h
  · exact h
  · rw [h "type" (by decide)] at htype
    cases htype

theorem ChoiceAlone.of_anyOf {entries : Entries Json} (h : ChoiceAlone entries) {members : Json}
    (hmembers : entries.get? "anyOf" = some members) :
    ∀ key ∈ ["type", "enum", "const"], entries.get? key = none := by
  rcases h with h | h
  · rw [h] at hmembers
    cases hmembers
  · exact h

theorem ChoiceAlone.exportNullable {inner : Entries Json} (h : ChoiceAlone inner) :
    ChoiceAlone (exportNullable .draft7 inner) := by
  rcases exportNullable_draft7 inner with ⟨name, htype, he⟩ | ⟨members, _, hmembers, he⟩ | ⟨_, he⟩
  · rw [he]
    left
    rw [Entries.get?_insert_of_ne (by decide), h.of_type htype]
  · rw [he]
    right
    intro key hm
    rw [Entries.get?_insert_of_mem (by decide) hm, h.of_anyOf hmembers key hm]
  · rw [he]
    exact choiceAlone_anyOf _

theorem ChoiceAlone.exportDescribed {entries : Entries Json} (h : ChoiceAlone entries)
    (text : Option String) : ChoiceAlone (exportDescribed text entries) := by
  cases text with
  | none => exact h
  | some text => exact h.insert (by decide) _

theorem choiceAlone (schema : Schema) : ChoiceAlone (exportEntries .draft7 schema) := by
  induction schema using Schema.induction with
  | leaf kind text =>
    have hleaf : ChoiceAlone (exportLeaf .draft7 kind) := .inl (get?_exportLeaf (by decide) _ kind)
    exact hleaf.exportDescribed text
  | array items limits text =>
    exact (choiceAlone_of_keys (keys_exportArray _ limits) (by decide)).exportDescribed text
  | object properties policy text =>
    exact (choiceAlone_of_keys (keys_exportObject _ _ policy) (by decide)).exportDescribed text
  | record values text =>
    have hrecord : ChoiceAlone [("type", .string "object"),
        ("additionalProperties", .object (exportEntries .draft7 values))] := .inl rfl
    exact hrecord.exportDescribed text
  | union options text => exact (choiceAlone_anyOf _).exportDescribed text
  | wrapped wrapper inner text ih =>
    have hwrapped : ChoiceAlone (exportWrapped .draft7 (exportEntries .draft7 inner) wrapper) := by
      cases wrapper with
      | optional | refine message => exact ih
      | default value => exact ih.insert (by decide) value
      | nullable => exact ih.exportNullable
    exact hwrapped.exportDescribed text

end Schema

end ApiDescription
