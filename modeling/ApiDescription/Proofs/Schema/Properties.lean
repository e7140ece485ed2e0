import ApiDescription.Proofs.Schema.Place

namespace ApiDescription.Schema

open Json (Step Keeps Boxes)

-- When a property may be left out.
inductive MayBeAbsent : Schema → Prop where
  | void (text : Option String) : MayBeAbsent (.leaf .void text)
  | any (text : Option String) : MayBeAbsent (.leaf .any text)
  | optional (inner : Schema) (text : Option String) : MayBeAbsent (.wrapped .optional inner text)
  | default (value : Json) (inner : Schema) (text : Option String) :
    MayBeAbsent (.wrapped (.default value) inner text)
  | nullable {inner : Schema} (text : Option String) :
    MayBeAbsent inner → MayBeAbsent (.wrapped .nullable inner text)
  | refine {inner : Schema} (message text : Option String) :
    MayBeAbsent inner → MayBeAbsent (.wrapped (.refine message) inner text)
  | union {options : List Schema} {option : Schema} (text : Option String) :
    option ∈ options → MayBeAbsent option → MayBeAbsent (.union options text)

theorem mayBeAbsent_of_isOptional {schema : Schema} (h : schema.isOptional = true) :
    schema.MayBeAbsent := by
  induction schema using Schema.induction with
  | leaf kind text =>
    cases kind with
    | void => exact .void text
    | any => exact .any text
    | string | number | boolean | null | literal | enumeration => cases h
  | array items limits text => cases h
  | object properties policy text => cases h
  | record values text => cases h
  | union options text ih =>
    rw [isOptional, anyOptional_eq_any, List.any_eq_true] at h
    obtain ⟨option, hm, ho⟩ := h
    exact .union text hm (ih option hm ho)
  | wrapped wrapper inner text ih =>
    cases wrapper with
    | optional => exact .optional inner text
    | default value => exact .default value inner text
    | nullable => exact .nullable text (ih h)
    | refine message => exact .refine message text (ih h)

theorem isOptional_iff (schema : Schema) : schema.isOptional = true ↔ schema.MayBeAbsent := by
  refine ⟨mayBeAbsent_of_isOptional, fun h => ?_⟩
  induction h with
  | void | any | optional | default => rfl
  | nullable text _ ih | refine message text _ ih => exact ih
  | union text hm _ ih =>
    rw [isOptional, anyOptional_eq_any, List.any_eq_true]
    exact ⟨_, hm, ih⟩

instance : DecidablePred MayBeAbsent := fun schema => decidable_of_iff _ schema.isOptional_iff

-- The names of the properties that may not be left out.
def mandatoryNames (properties : List (String × Schema)) : List String :=
  (properties.filter fun property => ¬property.2.MayBeAbsent).map Prod.fst

-- A schema object that says of the objects it describes what a node says.
structure RendersObject (dialect : Dialect) (properties : List (String × Schema))
    (policy : UnknownKeys) (part : Json) : Prop where
  shown : part.get? "properties" =
    some (.object (properties.map fun property => (property.1, property.2.toJsonSchema dialect)))
  distinct : (properties.map Prod.fst).Nodup
  required_isSome : (part.get? "required").isSome ↔
    ∃ property ∈ properties, ¬property.2.MayBeAbsent
  required : ∀ value, part.get? "required" = some value →
    value = Json.strings (mandatoryNames properties)
  required_distinct : (mandatoryNames properties).Nodup
  others : ∃ accepted, part.get? "additionalProperties" = some (.bool accepted) ∧
    (accepted = true ↔ policy = .passthrough)

theorem requiredNames_eq (properties : List (String × Schema)) :
    requiredNames properties = mandatoryNames properties := by
  have hp : ∀ property ∈ properties,
      (!property.2.isOptional) = decide (¬property.2.MayBeAbsent) := by
    intro property _
    cases h : property.2.isOptional <;> simp [← isOptional_iff, h]
  rw [requiredNames, mandatoryNames, List.filter_congr hp]

theorem mandatoryNames_eq_nil_iff (properties : List (String × Schema)) :
    mandatoryNames properties = [] ↔ ∀ property ∈ properties, property.2.MayBeAbsent := by
  simp [mandatoryNames, List.filter_eq_nil_iff]

theorem rendersObject (dialect : Dialect) {properties : List (String × Schema)}
    (hd : Entries.Distinct properties) (policy : UnknownKeys) (text : Option String) :
    RendersObject dialect properties policy
      ((object properties policy text).toJsonSchema dialect) := by
  have hkey : ∀ key, key ≠ "description" →
      ((object properties policy text).toJsonSchema dialect).get? key =
        (exportObject (exportProperties dialect properties) (requiredNames properties)
          policy).get? key :=
    fun key hne => get?_exportDescribed hne text _
  have hrequired := hkey "required" (by decide)
  rw [get?_required_exportObject, requiredNames_eq] at hrequired
  refine ⟨?_, hd, ?_, ?_, ?_, policy = .passthrough, ?_, decide_eq_true_iff⟩
  · rw [hkey "properties" (by decide), get?_properties_exportObject, exportProperties_eq_map]
    rfl
  · have hnil := mandatoryNames_eq_nil_iff properties
    rw [hrequired]
    by_cases hnone : mandatoryNames properties = []
    · simpa [hnone] using hnil.mp hnone
    · simpa [hnone] using mt hnil.mpr hnone
  · intro value hv
    rw [hrequired] at hv
    split at hv
    · cases hv
    · exact (Option.some.inj hv).symm
  · exact hd.sublist (List.filter_sublist.map Prod.fst)
  · rw [hkey "additionalProperties" (by decide), get?_others_exportObject]

theorem RendersObject.keeps {dialect : Dialect} {properties : List (String × Schema)}
    {policy : UnknownKeys} {before after : Json} (h : RendersObject dialect properties policy before)
    (hkeeps : Keeps before after) : RendersObject dialect properties policy after := by
  obtain ⟨hshown, hdistinct, hisSome, hrequired, hnames, hothers⟩ := h
  rw [← hkeeps.same "properties" (by decide)] at hshown
  rw [← hkeeps.same "required" (by decide)] at hisSome hrequired
  rw [← hkeeps.same "additionalProperties" (by decide)] at hothers
  exact ⟨hshown, hdistinct, hisSome, hrequired, hnames, hothers⟩

-- The way to an object node, from the inside to the outside: each node around adds its step.
theorem exists_follow_fill (dialect : Dialect) {properties : List (String × Schema)}
    {policy : UnknownKeys} {text : Option String} (context : Context)
    (h : (context.fill (.object properties policy text)).wellFormed = true) :
    ∃ path part, context.Leads path ∧
      ((context.fill (.object properties policy text)).toJsonSchema dialect).follow path =
        some part ∧ RendersObject dialect properties policy part := by
  induction context with
  | nil =>
    rw [Context.fill, wellFormed, Bool.and_eq_true] at h
    exact ⟨[], _, rfl, rfl, rendersObject dialect (of_decide_eq_true h.1) policy text⟩
  | cons frame rest ih =>
    obtain ⟨path, part, hleads, hfollow, hrenders⟩ :=
      ih (wellFormed_of_mem_inside h (frame.mem_inside_fill _))
    cases hstep : frame.step? with
    | some step =>
      refine ⟨step :: path, part, ⟨[step], path, rfl, .inl (by rw [hstep]; rfl), hleads⟩, ?_,
        hrenders⟩
      rw [Context.fill, Json.follow, child?_fill hstep h dialect]
      exact hfollow
    | none =>
      obtain ⟨wrapper, outer, rfl⟩ : ∃ wrapper outer, frame = .inner wrapper outer := by
        cases frame with
        | inner wrapper outer => exact ⟨wrapper, outer, rfl⟩
        | items | property | values | option => cases hstep
      rcases keeps_or_boxes dialect wrapper (Context.fill (.object properties policy text) rest)
        outer with hkeeps | ⟨rfl, hboxes⟩
      · cases path with
        | nil =>
          cases hfollow
          exact ⟨[], _, ⟨[], [], rfl, .inl rfl, hleads⟩, rfl, hrenders.keeps hkeeps⟩
        | cons step path =>
          refine ⟨step :: path, part, ⟨[], _, rfl, .inl rfl, hleads⟩, ?_, hrenders⟩
          obtain ⟨child, hchild, hfollow⟩ := Option.bind_eq_some_iff.mp hfollow
          exact Option.bind_eq_some_iff.mpr ⟨child, hkeeps.child? hchild, hfollow⟩
      · refine ⟨.choice 0 :: path, part, ⟨[.choice 0], path, rfl, .inr ⟨⟨outer, rfl⟩, rfl⟩, hleads⟩,
          ?_, hrenders⟩
        exact Option.bind_eq_some_iff.mpr ⟨_, hboxes.child?, hfollow⟩

theorem exists_object_of_properties {dialect : Dialect} {schema : Schema}
    (hbare : schema.Bare)
    (h : (schema.toJsonSchema dialect).get? "properties" ≠ none) :
    ∃ properties policy text, schema = .object properties policy text := by
  cases schema with
  | object properties policy text => exact ⟨properties, policy, text, rfl⟩
  | wrapped wrapper inner text => exact absurd rfl (hbare wrapper inner text)
  | leaf kind text =>
    refine absurd ?_ h
    rw [toJsonSchema, Json.get?_object, exportEntries, get?_exportDescribed (by decide),
      get?_exportLeaf (by decide)]
  | array items limits text =>
    refine absurd ?_ h
    rw [toJsonSchema, Json.get?_object, exportEntries, get?_exportDescribed (by decide)]
    exact Json.get?_of_keys (keys_exportArray _ limits) (by decide)
  | record values text | union options text =>
    refine absurd ?_ h
    rw [toJsonSchema, Json.get?_object, exportEntries, get?_exportDescribed (by decide)]
    rfl

-- What stands at the end of a way is there for an object node, in a context that leads there.
def Traces (dialect : Dialect) (schema : Schema) (path : List Step) (part : Json) : Prop :=
  ∃ (context : Context) (properties : List (String × Schema)) (policy : UnknownKeys)
    (text : Option String), schema = context.fill (.object properties policy text) ∧
      context.Leads path ∧ RendersObject dialect properties policy part

theorem Traces.within {dialect : Dialect} {hole : Schema} {path : List Step} {part : Json}
    (h : Traces dialect hole path part) {frame : Frame} {steps : List Step}
    (hsteps : frame.Leads steps) : Traces dialect (frame.fill hole) (steps ++ path) part := by
  obtain ⟨context, properties, policy, text, rfl, hleads, hrenders⟩ := h
  exact ⟨frame :: context, properties, policy, text, rfl, ⟨steps, path, rfl, hsteps, hleads⟩,
    hrenders⟩

theorem Traces.keeps {dialect : Dialect} {schema : Schema} {path : List Step}
    {before after : Json} (h : Traces dialect schema path before) (hkeeps : Keeps before after) :
    Traces dialect schema path after := by
  obtain ⟨context, properties, policy, text, rfl, hleads, hrenders⟩ := h
  exact ⟨context, properties, policy, text, rfl, hleads, hrenders.keeps hkeeps⟩

-- Whether all that has properties in the export of a schema is there for an object node.
def TracesAll (dialect : Dialect) (schema : Schema) : Prop :=
  ∀ path part, (schema.toJsonSchema dialect).follow path = some part →
    part.get? "properties" ≠ none → Traces dialect schema path part

theorem tracesAll_bare {dialect : Dialect} {schema : Schema}
    (hbare : schema.Bare)
    (h : schema.wellFormed = true) (ih : ∀ hole ∈ schema.inside, TracesAll dialect hole) :
    TracesAll dialect schema := by
  intro path part hfollow hproperties
  cases path with
  | nil =>
    cases hfollow
    obtain ⟨properties, policy, text, rfl⟩ := exists_object_of_properties hbare hproperties
    rw [wellFormed, Bool.and_eq_true] at h
    exact ⟨[], properties, policy, text, rfl, rfl,
      rendersObject dialect (of_decide_eq_true h.1) policy text⟩
  | cons step path =>
    obtain ⟨child, hchild, hfollow⟩ := Option.bind_eq_some_iff.mp hfollow
    obtain ⟨frame, hole, rfl, hstep, rfl⟩ := exists_frame_of_child? hbare hchild
    have hleads : frame.Leads [step] := .inl (by rw [hstep]; rfl)
    exact (ih hole (frame.mem_inside_fill hole) path part hfollow hproperties).within hleads

theorem tracesAll_layer {dialect : Dialect} {inner : Schema} (ih : TracesAll dialect inner)
    (wrapper : Wrapper) (text : Option String) :
    TracesAll dialect (.wrapped wrapper inner text) := by
  intro path part hfollow hproperties
  have hlayer : (Frame.inner wrapper text).Leads [] := .inl rfl
  -- The member that allows null has no properties.
  have hnull : ∀ path : List Step, nullType.follow path ≠ some part := by
    rintro path hf
    cases Json.follow_nullType hf
    exact hproperties rfl
  rcases keeps_or_boxes dialect wrapper inner text with hkeeps | ⟨rfl, hboxes⟩
  · cases path with
    | nil =>
      cases hfollow
      have hbefore : (inner.toJsonSchema dialect).get? "properties" ≠ none := by
        rwa [← hkeeps.same "properties" (by decide)]
      exact ((ih [] _ rfl hbefore).within hlayer).keeps hkeeps
    | cons step path =>
      obtain ⟨child, hchild, hrest⟩ := Option.bind_eq_some_iff.mp hfollow
      rcases hkeeps.child?_eq_some hchild with hbefore | rfl
      · have hinner : (inner.toJsonSchema dialect).follow (step :: path) = some part :=
          Option.bind_eq_some_iff.mpr ⟨child, hbefore, hrest⟩
        exact (ih (step :: path) part hinner hproperties).within hlayer
      · exact absurd hrest (hnull path)
  · cases path with
    | nil =>
      cases hfollow
      exact absurd (hboxes.others "properties" (by decide)) hproperties
    | cons step path =>
      obtain ⟨child, hchild, hrest⟩ := Option.bind_eq_some_iff.mp hfollow
      rcases hboxes.child?_eq_some hchild with ⟨rfl, rfl⟩ | rfl
      · have hboxed : (Frame.inner .nullable text).Leads [.choice 0] := .inr ⟨⟨text, rfl⟩, rfl⟩
        exact (ih path part hrest hproperties).within hboxed
      · exact absurd hrest (hnull path)

theorem tracesAll (dialect : Dialect) {schema : Schema} (h : schema.wellFormed = true) :
    TracesAll dialect schema := by
  induction schema using layer_induction with
  | bare schema hbare ih =>
    exact tracesAll_bare hbare h fun hole hm => ih hole hm (wellFormed_of_mem_inside h hm)
  | layer wrapper inner text ih =>
    have hinner := wellFormed_of_mem_inside h (List.mem_singleton.mpr rfl)
    exact tracesAll_layer (ih hinner) wrapper text

theorem object_nodes_rendered (dialect : Dialect) (schema : Schema)
    (h : schema.wellFormed = true) :
    (∀ (context : Context) (properties : List (String × Schema)) (policy : UnknownKeys)
      (text : Option String), schema = context.fill (.object properties policy text) →
        ∃ path part, context.Leads path ∧ (schema.toJsonSchema dialect).follow path = some part ∧
          RendersObject dialect properties policy part) ∧
    (∀ (path : List Step) (part : Json), (schema.toJsonSchema dialect).follow path = some part →
      part.get? "properties" ≠ none →
        ∃ (context : Context) (properties : List (String × Schema)) (policy : UnknownKeys)
          (text : Option String), schema = context.fill (.object properties policy text) ∧
            context.Leads path ∧ RendersObject dialect properties policy part) ∧
    ∀ node : Schema, node.isOptional = true ↔ node.MayBeAbsent := by
  refine ⟨?_, tracesAll dialect h, isOptional_iff⟩
  rintro context properties policy text rfl
  exact exists_follow_fill dialect context h

def entryProperties : List (String × Schema) := [
  ("id", string),
  ("note", .wrapped .nullable (.wrapped .optional string none) none),
  ("tags", .wrapped (.refine none) (arrayOf string) none),
  ("owner", .union [string, .leaf .void none] none)]

-- Null is allowed twice, so that the object stands in a choice.
def entryList : Schema :=
  arrayOf (.wrapped .nullable (.wrapped .nullable
    (.object entryProperties .passthrough (some "An entry")) none) none)

def entryPart : Json :=
  .object [
    ("type", .array [.string "object", .string "null"]),
    ("properties", .object [
      ("id", string.toJsonSchema .draft7),
      ("note", .object [("type", .array [.string "string", .string "null"])]),
      ("tags", (arrayOf string).toJsonSchema .draft7),
      ("owner", .object [("anyOf", .array [string.toJsonSchema .draft7, .object []])])]),
    ("required", Json.strings ["id", "tags"]),
    ("additionalProperties", .bool true),
    ("description", .string "An entry")]

theorem object_nodes_rendered_entryList :
    entryList.wellFormed = true ∧
    (entryList.toJsonSchema .draft7).follow [.items, .choice 0] = some entryPart ∧
    entryPart.get? "properties" ≠ none ∧
    ∃ (context : Context) (properties : List (String × Schema)) (policy : UnknownKeys)
      (text : Option String), entryList = context.fill (.object properties policy text) ∧
        context.Leads [.items, .choice 0] ∧
          RendersObject .draft7 properties policy entryPart := by
  have hwell : entryList.wellFormed = true := by decide
  have hfollow : (entryList.toJsonSchema .draft7).follow [.items, .choice 0] = some entryPart := rfl
  have hproperties : entryPart.get? "properties" ≠ none := nofun
  exact ⟨hwell, hfollow, hproperties,
    (object_nodes_rendered .draft7 entryList hwell).2.1 _ _ hfollow hproperties⟩

end ApiDescription.Schema
