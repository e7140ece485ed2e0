import ApiDescription.Proofs.Schema.Context
import ApiDescription.Proofs.Schema.Layers

namespace ApiDescription

namespace Json

-- One step from a schema object to a schema that stands in it.
inductive Step where
  | items
  | property (name : String)
  | others
  | choice (index : Nat)

def child? (schema : Json) : Step → Option Json
  | .items => schema.get? "items"
  | .property name => (schema.get? "properties").bind fun properties => properties.get? name
  | .others =>
    match schema.get? "additionalProperties" with
    | some (object entries) => some (object entries)
    | _ => none
  | .choice index =>
    match schema.get? "anyOf" with
    | some (array members) => members[index]?
    | _ => none

-- What stands in a schema at the end of a way.
def follow (schema : Json) : List Step → Option Json
  | [] => some schema
  | step :: rest => (schema.child? step).bind fun child => child.follow rest

theorem child?_choice {schema : Json} {members : List Json}
    (h : schema.get? "anyOf" = some (array members)) (index : Nat) :
    schema.child? (.choice index) = members[index]? := by
  rw [child?, h]

theorem child?_congr {before after : Json}
    (h : ∀ key ∈ places, after.get? key = before.get? key) (step : Step) :
    after.child? step = before.child? step := by
  cases step with
  | items => exact h "items" (by decide)
  | property name => rw [child?, child?, h "properties" (by decide)]
  | others => rw [child?, child?, h "additionalProperties" (by decide)]
  | choice index => rw [child?, child?, h "anyOf" (by decide)]

-- Nothing stands in the schema of null.
theorem follow_nullType {path : List Step} {part : Json}
    (h : Schema.nullType.follow path = some part) : part = Schema.nullType := by
  cases path with
  | nil => exact (Option.some.inj h).symm
  | cons step rest => cases step <;> cases h

-- The keys of the parts of an object and of what may be left out of it.
def objectKeys : List String := ["items", "properties", "required", "additionalProperties"]

-- A layer keeps what is inside and what is said of an object, and may add null to a choice.
structure Keeps (before after : Json) : Prop where
  same : ∀ key ∈ objectKeys, after.get? key = before.get? key
  choice : after.get? "anyOf" = before.get? "anyOf" ∨
    ∃ members, before.get? "anyOf" = some (array members) ∧
      after.get? "anyOf" = some (array (members ++ [Schema.nullType]))

-- Or it makes the schema the first member of a choice that has at most null besides.
structure Boxes (before after : Json) : Prop where
  choice : ∃ more, after.get? "anyOf" = some (array (before :: more)) ∧
    ∀ member ∈ more, member = Schema.nullType
  others : ∀ key ∈ objectKeys, after.get? key = none

theorem Keeps.refl (schema : Json) : Keeps schema schema := ⟨fun _ _ => rfl, .inl rfl⟩

theorem Keeps.congr {before after same : Json} (h : Keeps before after)
    (hkeys : ∀ key ∈ "anyOf" :: objectKeys, same.get? key = after.get? key) :
    Keeps before same := by
  have hchoice := hkeys "anyOf" (.head _)
  refine ⟨fun key hm => (hkeys key (.tail _ hm)).trans (h.same key hm), ?_⟩
  rw [hchoice]
  exact h.choice

theorem Boxes.congr {before after same : Json} (h : Boxes before after)
    (hkeys : ∀ key ∈ "anyOf" :: objectKeys, same.get? key = after.get? key) :
    Boxes before same := by
  have hchoice := hkeys "anyOf" (.head _)
  refine ⟨?_, fun key hm => (hkeys key (.tail _ hm)).trans (h.others key hm)⟩
  rw [hchoice]
  exact h.choice

theorem Keeps.child? {before after part : Json} (h : Keeps before after) {step : Step}
    (hpart : before.child? step = some part) : after.child? step = some part := by
  cases step with
  | items => rw [← hpart, Json.child?, Json.child?, h.same "items" (by decide)]
  | property name => rw [← hpart, Json.child?, Json.child?, h.same "properties" (by decide)]
  | others => rw [← hpart, Json.child?, Json.child?, h.same "additionalProperties" (by decide)]
  | choice index =>
    rcases h.choice with hsame | ⟨members, hbefore, hafter⟩
    · rw [← hpart, Json.child?, Json.child?, hsame]
    · rw [child?_choice hbefore] at hpart
      obtain ⟨hi, -⟩ := List.getElem?_eq_some_iff.mp hpart
      rw [child?_choice hafter, List.getElem?_append_left hi, hpart]

theorem Keeps.child?_eq_some {before after part : Json} (h : Keeps before after) {step : Step}
    (hpart : after.child? step = some part) :
    before.child? step = some part ∨ part = Schema.nullType := by
  cases step with
  | items =>
    rw [Json.child?, h.same "items" (by decide)] at hpart
    exact .inl hpart
  | property name =>
    rw [Json.child?, h.same "properties" (by decide)] at hpart
    exact .inl hpart
  | others =>
    rw [Json.child?, h.same "additionalProperties" (by decide)] at hpart
    exact .inl hpart
  | choice index =>
    rcases h.choice with hsame | ⟨members, hbefore, hafter⟩
    · rw [Json.child?, hsame] at hpart
      exact .inl hpart
    · rw [child?_choice hafter] at hpart
      rw [child?_choice hbefore]
      by_cases hi : index < members.length
      · rw [List.getElem?_append_left hi] at hpart
        exact .inl hpart
      · rw [List.getElem?_append_right (Nat.le_of_not_lt hi)] at hpart
        exact .inr (List.mem_singleton.mp (List.mem_of_getElem? hpart))

theorem Boxes.child? {before after : Json} (h : Boxes before after) :
    after.child? (.choice 0) = some before := by
  obtain ⟨more, hmembers, -⟩ := h.choice
  rw [child?_choice hmembers]
  rfl

theorem Boxes.child?_eq_some {before after part : Json} (h : Boxes before after) {step : Step}
    (hpart : after.child? step = some part) :
    step = .choice 0 ∧ part = before ∨ part = Schema.nullType := by
  cases step with
  | items =>
    rw [Json.child?, h.others "items" (by decide)] at hpart
    cases hpart
  | property name =>
    rw [Json.child?, h.others "properties" (by decide)] at hpart
    cases hpart
  | others =>
    rw [Json.child?, h.others "additionalProperties" (by decide)] at hpart
    cases hpart
  | choice index =>
    obtain ⟨more, hmembers, hmore⟩ := h.choice
    rw [child?_choice hmembers] at hpart
    cases index with
    | zero => exact .inl ⟨rfl, (Option.some.inj hpart).symm⟩
    | succ index => exact .inr (hmore part (List.mem_of_getElem? hpart))

end Json

namespace Schema

open Json (Step Keeps Boxes)

-- The step from the export of a node to that of the schema left out of it. A layer is at the same
-- place as the schema in it.
def Frame.step? : Frame → Option Step
  | items _ _ => some .items
  | property _ name _ _ _ => some (.property name)
  | values _ => some .others
  | option before _ _ => some (.choice before.length)
  | inner _ _ => none

-- A nullable layer may also put the inner schema into a choice.
def Frame.Leads (frame : Frame) (steps : List Step) : Prop :=
  steps = frame.step?.toList ∨ (∃ text, frame = .inner .nullable text) ∧ steps = [.choice 0]

-- The ways on which the schema in the hole can be found in the export of the whole.
def Context.Leads (path : List Step) : Context → Prop
  | [] => path = []
  | frame :: rest => ∃ steps more, path = steps ++ more ∧ frame.Leads steps ∧ Context.Leads more rest

theorem child?_exportDescribed (text : Option String) (entries : Entries Json) (step : Step) :
    (Json.object (exportDescribed text entries)).child? step =
      (Json.object entries).child? step := by
  apply Json.child?_congr
  exact fun key hm => get?_exportDescribed_of_mem (by decide) hm text entries

theorem child?_leaf (dialect : Dialect) (kind : Leaf) (text : Option String) (step : Step) :
    ((leaf kind text).toJsonSchema dialect).child? step = none := by
  have hnone : ∀ key ∈ Json.places,
      (Json.object (exportLeaf dialect kind)).get? key = (Json.object []).get? key :=
    fun key hm => get?_exportLeaf hm dialect kind
  rw [toJsonSchema, exportEntries, child?_exportDescribed, Json.child?_congr hnone]
  cases step <;> rfl

theorem child?_array (dialect : Dialect) (items : Schema) (limits : ArrayLimits)
    (text : Option String) (step : Step) (part : Json) :
    ((array items limits text).toJsonSchema dialect).child? step = some part ↔
      step = .items ∧ part = items.toJsonSchema dialect := by
  rw [toJsonSchema, exportEntries, child?_exportDescribed]
  have hnone : ∀ key ∈ ["properties", "additionalProperties", "anyOf"],
      (Json.object (exportArray (exportEntries dialect items) limits)).get? key = none :=
    fun key hm => Json.get?_of_keys (keys_exportArray _ limits) (by revert key; decide)
  cases step with
  | items =>
    simp [Json.child?, exportArray, -Json.get?_object, get?_object_present, typed, toJsonSchema,
      eq_comm]
  | property name => simp [Json.child?, hnone "properties" (by decide), -Json.get?_object]
  | others => simp [Json.child?, hnone "additionalProperties" (by decide), -Json.get?_object]
  | choice index => simp [Json.child?, hnone "anyOf" (by decide), -Json.get?_object]

theorem child?_object (dialect : Dialect) (properties : List (String × Schema))
    (policy : UnknownKeys) (text : Option String) (step : Step) (part : Json) :
    ((object properties policy text).toJsonSchema dialect).child? step = some part ↔
      ∃ name, step = .property name ∧
        Entries.get? (exportProperties dialect properties) name = some part := by
  rw [toJsonSchema, exportEntries, child?_exportDescribed]
  have hnone : ∀ key ∈ ["items", "anyOf"], (Json.object (exportObject
      (exportProperties dialect properties) (requiredNames properties) policy)).get? key = none :=
    fun key hm => Json.get?_of_keys (keys_exportObject _ _ policy) (by revert key; decide)
  cases step with
  | items => simp [Json.child?, hnone "items" (by decide), -Json.get?_object]
  | property name => simp [Json.child?, get?_properties_exportObject]
  | others => simp [Json.child?, get?_others_exportObject]
  | choice index => simp [Json.child?, hnone "anyOf" (by decide), -Json.get?_object]

theorem child?_record (dialect : Dialect) (values : Schema) (text : Option String) (step : Step)
    (part : Json) : ((record values text).toJsonSchema dialect).child? step = some part ↔
      step = .others ∧ part = values.toJsonSchema dialect := by
  rw [toJsonSchema, exportEntries, child?_exportDescribed]
  cases step <;> simp [Json.child?, Entries.get?, toJsonSchema, eq_comm]

theorem child?_union (dialect : Dialect) (options : List Schema) (text : Option String)
    (step : Step) (part : Json) :
    ((union options text).toJsonSchema dialect).child? step = some part ↔
      ∃ index, step = .choice index ∧ (exportOptions dialect options)[index]? = some part := by
  rw [toJsonSchema, exportEntries, child?_exportDescribed]
  cases step <;> simp [Json.child?, Entries.get?]

-- Every step inside leads to the export of a schema inside, except at a layer.
theorem child?_fill {frame : Frame} {step : Step} (hstep : frame.step? = some step)
    {hole : Schema} (h : (frame.fill hole).wellFormed = true) (dialect : Dialect) :
    ((frame.fill hole).toJsonSchema dialect).child? step = some (hole.toJsonSchema dialect) := by
  cases frame with
  | items limits text =>
    cases hstep
    exact (child?_array dialect hole limits text _ _).mpr ⟨rfl, rfl⟩
  | property before name after policy text =>
    cases hstep
    have hd : Entries.Distinct (before ++ (name, hole) :: after) := by
      rw [Frame.fill, wellFormed, Bool.and_eq_true] at h
      exact of_decide_eq_true h.1
    refine (child?_object dialect _ policy text _ _).mpr ⟨name, rfl, ?_⟩
    rw [exportProperties_eq_map]
    apply Entries.get?_of_mem
    · rw [Entries.Distinct, Entries.keys, List.map_map]
      exact hd
    · exact List.mem_map.mpr ⟨(name, hole), List.mem_append_cons_self, rfl⟩
  | values text =>
    cases hstep
    exact (child?_record dialect hole text _ _).mpr ⟨rfl, rfl⟩
  | option before after text =>
    cases hstep
    refine (child?_union dialect _ text _ _).mpr ⟨before.length, rfl, ?_⟩
    rw [exportOptions_eq_map]
    simp [toJsonSchema]
  | inner wrapper text => cases hstep

theorem exists_frame_of_child? {dialect : Dialect} {schema : Schema} {step : Step} {part : Json}
    (hbare : schema.Bare)
    (h : (schema.toJsonSchema dialect).child? step = some part) :
    ∃ (frame : Frame) (hole : Schema), schema = frame.fill hole ∧ frame.step? = some step ∧
      part = hole.toJsonSchema dialect := by
  cases schema with
  | leaf kind text =>
    rw [child?_leaf] at h
    cases h
  | array items limits text =>
    obtain ⟨rfl, rfl⟩ := (child?_array dialect items limits text step part).mp h
    exact ⟨.items limits text, items, rfl, rfl, rfl⟩
  | object properties policy text =>
    obtain ⟨name, rfl, hget⟩ := (child?_object dialect properties policy text step part).mp h
    rw [exportProperties_eq_map, Entries.get?_map] at hget
    obtain ⟨⟨other, hole⟩, hfind, rfl⟩ := Option.map_eq_some_iff.mp hget
    obtain rfl : other = name := by simpa using List.find?_some hfind
    obtain ⟨before, after, rfl⟩ := List.append_of_mem (List.mem_of_find?_eq_some hfind)
    exact ⟨.property before other after policy text, hole, rfl, rfl, rfl⟩
  | record values text =>
    obtain ⟨rfl, rfl⟩ := (child?_record dialect values text step part).mp h
    exact ⟨.values text, values, rfl, rfl, rfl⟩
  | union options text =>
    obtain ⟨index, rfl, hget⟩ := (child?_union dialect options text step part).mp h
    rw [exportOptions_eq_map, List.getElem?_map] at hget
    obtain ⟨hole, hhole, rfl⟩ := Option.map_eq_some_iff.mp hget
    obtain ⟨hi, rfl⟩ := List.getElem?_eq_some_iff.mp hhole
    refine ⟨.option (options.take index) (options.drop (index + 1)) text, options[index], ?_, ?_, rfl⟩
    · rw [Frame.fill, List.getElem_cons_drop, List.take_append_drop]
    · rw [Frame.step?, List.length_take_of_le (Nat.le_of_lt hi)]
  | wrapped wrapper inner text => exact absurd rfl (hbare wrapper inner text)

theorem keeps_insert {key : String} (hkey : key ∉ "anyOf" :: Json.objectKeys)
    (entries : Entries Json) (value : Json) :
    Keeps (.object entries) (.object (entries.insert key value)) := by
  apply (Keeps.refl _).congr
  exact fun other hm => Entries.get?_insert_of_mem hkey hm entries value

theorem keeps_or_boxes_exportNullable (dialect : Dialect) (inner : Entries Json) :
    Keeps (.object inner) (.object (exportNullable dialect inner)) ∨
      Boxes (.object inner) (.object (exportNullable dialect inner)) := by
  cases dialect with
  | openApi3 =>
    rw [exportNullable]
    split
    · exact .inl (keeps_insert (by decide) inner _)
    · exact .inr ⟨⟨[], rfl, by simp⟩, by simp [Json.objectKeys, Entries.get?]⟩
  | draft7 =>
    rcases exportNullable_draft7 inner with ⟨_, _, h⟩ | ⟨members, _, hmembers, h⟩ | ⟨_, h⟩
    · rw [h]
      exact .inl (keeps_insert (by decide) inner _)
    · rw [h]
      refine .inl ⟨?_, .inr ⟨members, hmembers, ?_⟩⟩
      · exact fun key hm => Entries.get?_insert_of_mem (by decide) hm inner _
      · rw [Json.get?_object, Entries.get?_insert_self]
    · rw [h]
      exact .inr ⟨⟨[nullType], rfl, by simp⟩, by simp [Json.objectKeys, Entries.get?]⟩

-- What a layer does to the export of the schema in it.
theorem keeps_or_boxes (dialect : Dialect) (wrapper : Wrapper) (inner : Schema)
    (text : Option String) :
    Keeps (inner.toJsonSchema dialect) ((wrapped wrapper inner text).toJsonSchema dialect) ∨
      wrapper = .nullable ∧
        Boxes (inner.toJsonSchema dialect) ((wrapped wrapper inner text).toJsonSchema dialect) := by
  have htext : ∀ key ∈ "anyOf" :: Json.objectKeys,
      ((wrapped wrapper inner text).toJsonSchema dialect).get? key =
        (Json.object (exportWrapped dialect (exportEntries dialect inner) wrapper)).get? key :=
    fun key hm => get?_exportDescribed_of_mem (by decide) hm text _
  cases wrapper with
  | optional | refine message => exact .inl ((Keeps.refl _).congr htext)
  | default value => exact .inl ((keeps_insert (by decide) _ value).congr htext)
  | nullable =>
    rcases keeps_or_boxes_exportNullable dialect (exportEntries dialect inner) with h | h
    · exact .inl (h.congr htext)
    · exact .inr ⟨rfl, h.congr htext⟩

end Schema

end ApiDescription
