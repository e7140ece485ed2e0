import ApiDescription.Proofs.Schema.Layers

namespace ApiDescription

namespace Json

-- Whether the types that a schema of the seventh draft names are among them that of null.
def AdmitsNullType (schema : Json) : Prop :=
  ∀ value, schema.get? "type" = some value →
    value = string "null" ∨ ∃ names, value = array names ∧ string "null" ∈ names

-- Whether null is one of the values that a schema lists.
def AdmitsNullValue (schema : Json) : Prop :=
  (∀ value, schema.get? "enum" = some value → ∃ values, value = array values ∧ null ∈ values) ∧
    ∀ value, schema.get? "const" = some value → value = null

-- Null is valid against a schema object. The other keywords are about values of other types.
inductive AllowsNull : Json → Prop where
  | plain {entries : Entries Json} : AdmitsNullType (object entries) →
      AdmitsNullValue (object entries) → entries.get? "anyOf" = none → AllowsNull (object entries)
  | choice {entries : Entries Json} {members : List Json} {member : Json} :
      AdmitsNullType (object entries) → AdmitsNullValue (object entries) →
      entries.get? "anyOf" = some (array members) → member ∈ members → AllowsNull member →
      AllowsNull (object entries)

theorem AllowsNull.value {entries : Entries Json} (h : AllowsNull (object entries)) :
    AdmitsNullValue (object entries) := by
  cases h with
  | plain _ hvalue _ => exact hvalue
  | choice _ hvalue _ _ _ => exact hvalue

theorem admitsNullValue_congr {before after : Entries Json}
    (h : ∀ key ∈ ["enum", "const"], after.get? key = before.get? key) :
    AdmitsNullValue (object after) ↔ AdmitsNullValue (object before) := by
  rw [AdmitsNullValue, AdmitsNullValue, get?_object, get?_object, get?_object, get?_object,
    h "enum" (by decide), h "const" (by decide)]

theorem admitsNullValue_of_keys {entries : Entries Json} {names : List String}
    (hkeys : entries.keys.Sublist names) (h : ∀ key ∈ ["enum", "const"], key ∉ names) :
    AdmitsNullValue (object entries) := by
  have hnone : ∀ key ∈ ["enum", "const"], entries.get? key = Entries.get? [] key :=
    fun key hm => get?_of_keys hkeys (h key hm)
  exact (admitsNullValue_congr hnone).mpr ⟨nofun, nofun⟩

theorem allowsNull_congr {before after : Entries Json}
    (h : ∀ key ∈ ["type", "enum", "const", "anyOf"], after.get? key = before.get? key)
    (hb : AllowsNull (object before)) : AllowsNull (object after) := by
  have hvalue := (admitsNullValue_congr fun key hm => h key (by revert key; decide)).mpr hb.value
  have htype : AdmitsNullType (object before) → AdmitsNullType (object after) := by
    rw [AdmitsNullType, AdmitsNullType, get?_object, get?_object, h "type" (by decide)]
    exact id
  cases hb with
  | plain ht _ hchoice =>
    exact .plain (htype ht) hvalue (by rw [h "anyOf" (by decide), hchoice])
  | choice ht _ hmembers hm hmember =>
    exact .choice (htype ht) hvalue (by rw [h "anyOf" (by decide), hmembers]) hm hmember

theorem allowsNull_nullType : AllowsNull Schema.nullType :=
  .plain (fun _ hv => .inl (Option.some.inj hv).symm) ⟨nofun, nofun⟩ rfl

-- A choice of which null is a member.
theorem allowsNull_of_choice {entries : Entries Json} {members : List Json}
    (halone : ∀ key ∈ ["type", "enum", "const"], entries.get? key = none)
    (hmembers : entries.get? "anyOf" = some (array members)) (hm : Schema.nullType ∈ members) :
    AllowsNull (object entries) := by
  refine .choice ?_ ⟨?_, ?_⟩ hmembers hm allowsNull_nullType
  · simp [AdmitsNullType, halone "type" (by decide)]
  · simp [halone "enum" (by decide)]
  · simp [halone "const" (by decide)]

end Json

namespace Schema

open Json (AllowsNull AdmitsNullValue)

-- Only next to a type can listed values shut null out. Any other schema becomes a member of a
-- choice, with null beside it.
theorem allowsNull_exportNullable_iff {inner : Entries Json} (h : ChoiceAlone inner) :
    AllowsNull (.object (exportNullable .draft7 inner)) ↔
      ∀ name, inner.get? "type" = some (.string name) → AdmitsNullValue (.object inner) := by
  rcases exportNullable_draft7 inner with
    ⟨name, htype, he⟩ | ⟨members, htype, hmembers, he⟩ | ⟨htype, he⟩
  · have hother : ∀ key ∈ ["enum", "const", "anyOf"],
        (exportNullable .draft7 inner).get? key = inner.get? key := by
      intro key hm
      rw [he, Entries.get?_insert_of_mem (by decide) hm]
    have hvalue : AdmitsNullValue (.object (exportNullable .draft7 inner)) ↔
        AdmitsNullValue (.object inner) :=
      Json.admitsNullValue_congr fun key hm => hother key (by revert key; decide)
    refine ⟨fun hallows _ _ => hvalue.mp hallows.value, fun hadmits => ?_⟩
    refine .plain ?_ (hvalue.mpr (hadmits name htype)) ?_
    · intro value hv
      rw [he, Json.get?_object, Entries.get?_insert_self] at hv
      exact .inr ⟨_, (Option.some.inj hv).symm, .tail _ (.head _)⟩
    · rw [hother "anyOf" (by decide), h.of_type htype]
  · refine ⟨fun _ name hname => absurd hname (htype name), fun _ => ?_⟩
    rw [he]
    apply Json.allowsNull_of_choice _ (Entries.get?_insert_self _ _ _) (by simp)
    intro key hm
    rw [Entries.get?_insert_of_mem (by decide) hm, h.of_anyOf hmembers key hm]
  · refine ⟨fun _ name hname => absurd hname (htype name), fun _ => ?_⟩
    rw [he]
    exact Json.allowsNull_of_choice (by simp [Entries.get?]) rfl (by simp)

-- A node that lists its values next to their type, and so does not list null.
def fixesValue : Schema → Bool
  | leaf (.enumeration _) _ => true
  | leaf (.literal (.string _)) _ | leaf (.literal (.number _)) _ | leaf (.literal (.bool _)) _ =>
    true
  | _ => false

theorem admitsNullValue_leaf (kind : Leaf) (text : Option String) :
    (∀ name, (exportLeaf .draft7 kind).get? "type" = some (.string name) →
      AdmitsNullValue (.object (exportLeaf .draft7 kind))) ↔
        (leaf kind text).fixesValue = false := by
  have hplain : ∀ (names : List String), (exportLeaf .draft7 kind).keys.Sublist names →
      (∀ key ∈ ["enum", "const"], key ∉ names) →
      AdmitsNullValue (.object (exportLeaf .draft7 kind)) :=
    fun _ hkeys h => Json.admitsNullValue_of_keys hkeys h
  cases kind with
  | string limits =>
    exact iff_of_true (fun _ _ => hplain _ (keys_exportString limits) (by decide)) rfl
  | number limits =>
    exact iff_of_true (fun _ _ => hplain _ (keys_exportNumber _ limits) (by decide)) rfl
  | boolean | null => exact iff_of_true (fun _ _ => hplain ["type"] (.refl _) (by decide)) rfl
  | void | any => exact iff_of_true nofun rfl
  | enumeration values =>
    refine iff_of_false (fun h => ?_) (by simp [fixesValue])
    obtain ⟨items, hitems, hm⟩ := (h "string" rfl).1 _ rfl
    cases hitems
    simp at hm
  | literal value =>
    cases value with
    | null => exact iff_of_true (fun _ _ => hplain ["type"] (.refl _) (by decide)) rfl
    | array items | object entries => exact iff_of_true nofun rfl
    | string value | number value | bool value =>
      refine iff_of_false (fun h => ?_) (by simp [fixesValue])
      have hconst := (h _ rfl).2 _ rfl
      cases hconst

theorem admitsNullValue_exposed (schema : Schema) :
    (∀ name, (exportEntries .draft7 schema).get? "type" = some (.string name) →
      AdmitsNullValue (.object (exportEntries .draft7 schema))) ↔
        schema.exposed.fixesValue = false := by
  have hexposed : ∀ key ∈ ["type", "enum", "const"],
      (exportEntries .draft7 schema.exposed).get? key = (exportEntries .draft7 schema).get? key :=
    fun key hm => get?_exportEntries_exposed .draft7 (by revert key; decide)
      (by revert key; decide) schema
  rw [← hexposed "type" (by decide),
    ← Json.admitsNullValue_congr fun key hm => hexposed key (.tail _ hm)]
  have hdescribed : ∀ (entries : Entries Json) (text : Option String),
      (∀ name, (exportDescribed text entries).get? "type" = some (.string name) →
        AdmitsNullValue (.object (exportDescribed text entries))) ↔
      ∀ name, entries.get? "type" = some (.string name) → AdmitsNullValue (.object entries) := by
    intro entries text
    rw [get?_exportDescribed (by decide), Json.admitsNullValue_congr]
    exact fun key hm => get?_exportDescribed_of_mem (by decide) hm text entries
  cases he : schema.exposed with
  | leaf kind text => rw [exportEntries, hdescribed, admitsNullValue_leaf]
  | array items limits text =>
    rw [exportEntries, hdescribed]
    exact iff_of_true
      (fun _ _ => Json.admitsNullValue_of_keys (keys_exportArray _ limits) (by decide)) rfl
  | object properties policy text =>
    rw [exportEntries, hdescribed]
    exact iff_of_true
      (fun _ _ => Json.admitsNullValue_of_keys (keys_exportObject _ _ policy) (by decide)) rfl
  | record values text =>
    rw [exportEntries, hdescribed]
    have hkeys : Entries.keys [("type", Json.string "object"), ("additionalProperties",
        .object (exportEntries .draft7 values))] |>.Sublist ["type", "additionalProperties"] :=
      .refl _
    exact iff_of_true (fun _ _ => Json.admitsNullValue_of_keys hkeys (by decide)) rfl
  | union options text =>
    rw [exportEntries, hdescribed]
    exact iff_of_true (fun _ h => absurd h (Option.some_ne_none _).symm) rfl
  | wrapped wrapper inner text =>
    obtain rfl := eq_nullable_of_exposed he
    rw [exportEntries, hdescribed]
    exact iff_of_true (fun name h => absurd h (get?_type_exportNullable _ name)) rfl

-- A layer that allows null does so, unless it lies on a node that lists its values.
theorem nullable_allowsNull_iff (schema : Schema) :
    AllowsNull (schema.nullable.toJsonSchema .draft7) ↔ schema.exposed.fixesValue = false := by
  rw [← admitsNullValue_exposed, ← allowsNull_exportNullable_iff (choiceAlone schema)]
  have hdescribed : ∀ key ∈ ["type", "enum", "const", "anyOf"],
      (exportEntries .draft7 schema.nullable).get? key =
        (exportNullable .draft7 (exportEntries .draft7 schema)).get? key :=
    fun key hm => get?_exportDescribed_of_mem (by decide) hm _ _
  exact ⟨Json.allowsNull_congr fun key hm => (hdescribed key hm).symm,
    Json.allowsNull_congr hdescribed⟩

theorem nullable_literal_rejects_null :
    ¬AllowsNull ((literal (.string "none")).nullable.toJsonSchema .draft7) := by
  intro h
  have hconst := h.value.2 (.string "none") rfl
  cases hconst

end Schema

end ApiDescription
