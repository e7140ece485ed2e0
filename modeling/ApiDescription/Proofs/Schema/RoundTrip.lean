import ApiDescription.Proofs.Reading.Record
import ApiDescription.Proofs.Schema.Induction
import ApiDescription.Schema.Reading

namespace ApiDescription

namespace Schema

mutual

-- Whether the names of the properties are distinct at every node, and the values that stand in the
-- schema are well formed. Both hold of every schema that a program has.
def wellFormed : Schema → Bool
  | leaf (.literal value) _ => value.wellFormed
  | leaf _ _ => true
  | array items _ _ => wellFormed items
  | object properties _ _ =>
    decide (Entries.Distinct properties) && wellFormedProperties properties
  | record values _ => wellFormed values
  | union options _ => wellFormedOptions options
  | wrapped (.default value) inner _ => value.wellFormed && wellFormed inner
  | wrapped _ inner _ => wellFormed inner

def wellFormedProperties : List (String × Schema) → Bool
  | [] => true
  | (_, schema) :: rest => wellFormed schema && wellFormedProperties rest

def wellFormedOptions : List Schema → Bool
  | [] => true
  | option :: rest => wellFormed option && wellFormedOptions rest

end

theorem wellFormedProperties_eq_all (properties : List (String × Schema)) :
    wellFormedProperties properties = properties.all fun property => property.2.wellFormed := by
  induction properties with
  | nil => rfl
  | cons property rest ih => rw [wellFormedProperties, ih, List.all_cons]

theorem wellFormedOptions_eq_all (options : List Schema) :
    wellFormedOptions options = options.all wellFormed := by
  induction options with
  | nil => rfl
  | cons option rest ih => rw [wellFormedOptions, ih, List.all_cons]

-- The schemas directly inside of a schema.
def inside : Schema → List Schema
  | leaf _ _ => []
  | array items _ _ => [items]
  | object properties _ _ => properties.map Prod.snd
  | record values _ => [values]
  | union options _ => options
  | wrapped _ inner _ => [inner]

theorem wellFormed_of_mem_inside {schema part : Schema} (h : schema.wellFormed = true)
    (hm : part ∈ schema.inside) : part.wellFormed = true := by
  cases schema with
  | leaf kind text => cases hm
  | array items limits text => exact List.mem_singleton.mp hm ▸ h
  | object properties policy text =>
    rw [wellFormed, Bool.and_eq_true, wellFormedProperties_eq_all, List.all_eq_true] at h
    obtain ⟨property, hp, rfl⟩ := List.mem_map.mp hm
    exact h.2 property hp
  | record values text => exact List.mem_singleton.mp hm ▸ h
  | union options text =>
    rw [wellFormed, wellFormedOptions_eq_all, List.all_eq_true] at h
    exact h part hm
  | wrapped wrapper inner text =>
    cases List.mem_singleton.mp hm
    cases wrapper with
    | default value =>
      rw [wellFormed, Bool.and_eq_true] at h
      exact h.2
    | optional | nullable | refine _ => exact h

theorem depth_lt_written {kind name : String} {fields : List (Option (String × Json))}
    {text : Option String} {value : Json} (h : Json.field name value ∈ fields) :
    value.node.depth < (written kind fields text).node.depth := by
  have hm : (name, value) ∈ (Json.field "type" (.string kind) :: fields ++
      [Json.field? "description" text .string]).filterMap id :=
    List.mem_filterMap.mpr ⟨Json.field name value, by simp [h], rfl⟩
  exact Json.depth_node_lt_object hm

theorem depth_lt_of_mem_inside {schema part : Schema} (hm : part ∈ schema.inside) :
    part.toJson.node.depth < schema.toJson.node.depth := by
  cases schema with
  | leaf kind text => cases hm
  | array items limits text =>
    cases List.mem_singleton.mp hm
    exact depth_lt_written (.head _)
  | object properties policy text =>
    obtain ⟨property, hp, rfl⟩ := List.mem_map.mp hm
    have hinner : property.2.toJson.node.depth <
        (Json.object (propertiesToJson properties)).node.depth := by
      rw [propertiesToJson_eq_map]
      have hmap := List.mem_map_of_mem (f := fun p : String × Schema => (p.1, p.2.toJson)) hp
      exact Json.depth_node_lt_object hmap
    exact Nat.lt_trans hinner (depth_lt_written (.head _))
  | record values text =>
    cases List.mem_singleton.mp hm
    exact depth_lt_written (.head _)
  | union options text =>
    have hinner : part.toJson.node.depth < (Json.array (optionsToJson options)).node.depth := by
      rw [optionsToJson_eq_map]
      exact Json.depth_node_lt_array (List.mem_map_of_mem hm)
    exact Nat.lt_trans hinner (depth_lt_written (.head _))
  | wrapped wrapper inner text =>
    cases List.mem_singleton.mp hm
    have hfield : Json.field "inner" part.toJson ∈ (wrapperFields part.toJson wrapper).2 := by
      cases wrapper <;> exact .head _
    exact depth_lt_written hfield

theorem nodeKey_string (medium : Medium) (key : String) :
    nodeKey medium (.atom (.string key)) = .ok (.atom (.string key)) := by
  cases medium <;> rfl

theorem splitDescription_cons {medium : Medium} {key : String} (hkey : key ≠ "description")
    {value : Json} {rest others : List (Node × Node)} {text : Option String}
    (h : splitDescription medium rest none = .ok (text, others)) :
    splitDescription medium ((.atom (.string key), value.node) :: rest) none =
      .ok (text, (.atom (.string key), value.node) :: others) := by
  rw [splitDescription, nodeKey_string]
  simp only [bind, Except.bind, h, Json.buffer_node]
  split
  · rename_i hsame
    cases hsame
    exact absurd rfl hkey
  · rfl

-- The description is written last and found wherever it stands.
theorem splitDescription_entryNodes (medium : Medium) (pairs : List (String × Json))
    (hkeys : ∀ pair ∈ pairs, pair.1 ≠ "description") (text : Option String) :
    splitDescription medium (Json.entryNodes
        (pairs ++ [Json.field? "description" text .string].filterMap id)) none =
      .ok (text, Json.entryNodes pairs) := by
  induction pairs with
  | nil =>
    cases text with
    | none => rfl
    | some text => cases medium <;> rfl
  | cons pair rest ih =>
    exact splitDescription_cons (hkeys pair List.mem_cons_self)
      (ih fun other hm => hkeys other (List.mem_cons_of_mem _ hm))

theorem fills_string (limits : StringLimits) :
    Fills stringRecord.fields (stringFields limits) {} limits := by
  have hformat := Node.inverts_keyword StringFormat.get?_names .buffered
  apply Fills.optional "format" limits.format rfl hformat
  apply Fills.optional "minLength" limits.minLength rfl Node.inverts_count
  apply Fills.optional "maxLength" limits.maxLength rfl Node.inverts_count
  apply Fills.optional "pattern" limits.pattern rfl Node.inverts_string
  exact .nil limits

theorem readBound_toJson (bound : Bound) : readBound bound.toJson.node = .ok bound := by
  have hfills : Fills boundRecord.fields
      [Json.field "value" (.number bound.value), Json.field "exclusive" (.bool bound.exclusive)]
      {} ⟨some bound.value, bound.exclusive⟩ := by
    apply Fills.required "value" (x := bound.value) rfl
    apply Fills.defaulted "exclusive" (x := bound.exclusive) rfl
    exact .nil _
  have hread : boundRecord.read .buffered {} bound.toJson.node =
      .ok ⟨some bound.value, bound.exclusive⟩ :=
    Record.read_of_fills (by decide) .buffered hfills
  rw [readBound, hread]
  rfl

theorem inverts_bound : Node.Inverts readBound Bound.toJson :=
  ⟨fun _ => nofun, readBound_toJson⟩

theorem fills_number (limits : NumberLimits) :
    Fills numberRecord.fields (numberFields limits) {} limits := by
  apply Fills.defaulted "integer" (x := limits.integer) rfl
  apply Fills.optional "minimum" limits.minimum rfl inverts_bound
  apply Fills.optional "maximum" limits.maximum rfl inverts_bound
  apply Fills.optional "multipleOf" limits.multipleOf rfl Node.inverts_number
  exact .nil limits

-- Fields that share an object with a tag and a description, and are told apart from them.
def Unreserved (names : List String) : Prop :=
  names.Nodup ∧ "type" ∉ names ∧ "description" ∉ names

instance (names : List String) : Decidable (Unreserved names) :=
  inferInstanceAs (Decidable (_ ∧ _))

theorem names_fieldsOf (child other : Node → Except Fault Schema) (kind : Kind) :
    (fieldsOf child kind).map Field.name = (fieldsOf other kind).map Field.name := by
  cases kind <;> rfl

theorem unreserved_fieldsOf (child : Node → Except Fault Schema) (kind : Kind) :
    Unreserved ((fieldsOf child kind).map Field.name) := by
  rw [names_fieldsOf child fun _ => .error .malformed]
  cases kind <;> decide

theorem node_written (name : String) (fields : List (Option (String × Json)))
    (text : Option String) :
    (written name fields text).node = .map (Json.entryNodes
      ((("type", .string name) :: fields.filterMap id) ++
        [Json.field? "description" text .string].filterMap id)) := by
  rw [written, Json.present, List.filterMap_append, Json.node]
  rfl

-- What is written as a node is taken apart into its description, its kind and the fields of its
-- kind.
theorem readNode_written {δ : Type} {record : List (Field δ)}
    {fields : List (Option (String × Json))} {draft result : δ}
    (hfills : Fills record fields draft result) (hnames : Unreserved (record.map Field.name))
    {name : String} (kind : Kind) (hkind : Entries.get? Kind.names name = some kind)
    {child : Node → Except Fault Schema} {text : Option String} {schema : Schema}
    (hread : readKind child kind (Json.entryNodes (fields.filterMap id)) text = .ok schema)
    (medium : Medium) : readNode child medium (written name fields text).node = .ok schema := by
  have hmem : ∀ pair ∈ fields.filterMap id, pair.1 ∈ record.map Field.name :=
    fun pair hm => hfills.keys.subset (List.mem_map_of_mem hm)
  have htype : ∀ pair ∈ fields.filterMap id, pair.1 ≠ "type" :=
    fun pair hm he => hnames.2.1 (he ▸ hmem pair hm)
  have hdescription : ∀ pair ∈ ("type", Json.string name) :: fields.filterMap id,
      pair.1 ≠ "description" := by
    intro pair hm
    rcases List.mem_cons.mp hm with rfl | hm
    · show "type" ≠ "description"
      decide
    · exact fun he => hnames.2.2 (he ▸ hmem pair hm)
  have hsplit := splitDescription_entryNodes medium _ hdescription text
  have htag := splitTag_written hkind .buffered _ htype
  rw [node_written, readNode]
  simp only [Node.asEntries, bind, Except.bind, hsplit, htag, hread]

variable {child : Node → Except Fault Schema}

theorem readNode_of_fills {kind : Kind} {fields : List (Option (String × Json))} {draft : Draft}
    (hfills : Fills (fieldsOf child kind) fields {} draft) {name : String}
    (hkind : Entries.get? Kind.names name = some kind) {text : Option String} {schema : Schema}
    (hread : ∀ entries, (kindRecord child kind).read .buffered {} (.map entries) = .ok draft →
      readKind child kind entries text = .ok schema) (medium : Medium) :
    readNode child medium (written name fields text).node = .ok schema := by
  have hnames := unreserved_fieldsOf child kind
  have hdraft : (kindRecord child kind).read .buffered {}
      (.map (Json.entryNodes (fields.filterMap id))) = .ok draft :=
    Record.read_of_fills hnames.1 .buffered hfills
  exact readNode_written hfills hnames kind hkind (hread _ hdraft) medium

theorem readNode_leaf (medium : Medium) {kind : Leaf} {text : Option String}
    (h : (leaf kind text).wellFormed = true) :
    readNode child medium (leaf kind text).toJson.node = .ok (leaf kind text) := by
  cases kind with
  | string limits =>
    have hfills := fills_string limits
    have hread : stringRecord.read .buffered {}
        (.map (Json.entryNodes ((stringFields limits).filterMap id))) = .ok limits :=
      Record.read_of_fills (by decide) .buffered hfills
    apply readNode_written hfills (by decide) .string rfl ?_ medium
    simp only [readKind, hread]
    rfl
  | number limits =>
    have hfills := fills_number limits
    have hread : numberRecord.read .buffered {}
        (.map (Json.entryNodes ((numberFields limits).filterMap id))) = .ok limits :=
      Record.read_of_fills (by decide) .buffered hfills
    apply readNode_written hfills (by decide) .number rfl ?_ medium
    simp only [readKind, hread]
    rfl
  | boolean => exact readNode_written (.nil ()) (by decide) .boolean rfl rfl medium
  | null => exact readNode_written (.nil ()) (by decide) .null rfl rfl medium
  | void => exact readNode_written (.nil ()) (by decide) .void rfl rfl medium
  | any => exact readNode_written (.nil ()) (by decide) .any rfl rfl medium
  | literal value =>
    have hfills : Fills (fieldsOf child .literal) [Json.field "value" value] {}
        { value := some value } :=
      .required "value" (Json.asJson_node value h) (.nil _)
    apply readNode_of_fills hfills rfl ?_ medium
    intro entries hread
    simp only [readKind, hread]
    rfl
  | enumeration values =>
    have hfills : Fills (fieldsOf child .enumeration) [Json.field "values" (Json.strings values)]
        {} { values := some values } :=
      .required "values" (Node.asList_array fun value _ => rfl) (.nil _)
    apply readNode_of_fills hfills rfl ?_ medium
    intro entries hread
    simp only [readKind, hread]
    rfl

theorem readNode_wrapped (medium : Medium) {wrapper : Wrapper} {inner : Schema}
    {text : Option String} (h : (wrapped wrapper inner text).wellFormed = true)
    (hinner : child inner.toJson.node = .ok inner) :
    readNode child medium (wrapped wrapper inner text).toJson.node =
      .ok (wrapped wrapper inner text) := by
  cases wrapper with
  | optional =>
    have hfills : Fills (fieldsOf child .optional) [Json.field "inner" inner.toJson] {}
        { inner := some inner } :=
      .required "inner" hinner (.nil _)
    apply readNode_of_fills hfills rfl ?_ medium
    intro entries hread
    simp only [readKind, hread]
    rfl
  | nullable =>
    have hfills : Fills (fieldsOf child .nullable) [Json.field "inner" inner.toJson] {}
        { inner := some inner } :=
      .required "inner" hinner (.nil _)
    apply readNode_of_fills hfills rfl ?_ medium
    intro entries hread
    simp only [readKind, hread]
    rfl
  | default value =>
    rw [wellFormed, Bool.and_eq_true] at h
    have hfills : Fills (fieldsOf child .default)
        [Json.field "inner" inner.toJson, Json.field "value" value] {}
        { inner := some inner, value := some value } :=
      .required "inner" hinner (.required "value" (Json.asJson_node value h.1) (.nil _))
    apply readNode_of_fills hfills rfl ?_ medium
    intro entries hread
    simp only [readKind, hread]
    rfl
  | refine message =>
    have hfills : Fills (fieldsOf child .refine)
        [Json.field "inner" inner.toJson, Json.field? "message" message .string] {}
        { inner := some inner, message } :=
      .required "inner" hinner
        (.optional "message" message rfl Node.inverts_string (.nil _))
    apply readNode_of_fills hfills rfl ?_ medium
    intro entries hread
    simp only [readKind, hread]
    rfl

-- One node is read back if the nodes directly inside of it are.
theorem readNode_toJson (medium : Medium) {schema : Schema} (h : schema.wellFormed = true)
    (hchild : ∀ part ∈ schema.inside, child part.toJson.node = .ok part) :
    readNode child medium schema.toJson.node = .ok schema := by
  cases schema with
  | leaf kind text => exact readNode_leaf medium h
  | wrapped wrapper inner text => exact readNode_wrapped medium h (hchild inner (.head _))
  | array items limits text =>
    have hfills : Fills (fieldsOf child .array) [Json.field "items" items.toJson,
        Json.field? "minItems" limits.minItems count, Json.field? "maxItems" limits.maxItems count]
        {} { inner := some items, arrayLimits := limits } := by
      apply Fills.required "items" (hchild items (.head _))
      apply Fills.optional "minItems" limits.minItems rfl Node.inverts_count
      apply Fills.optional "maxItems" limits.maxItems rfl Node.inverts_count
      exact .nil _
    apply readNode_of_fills hfills rfl ?_ medium
    intro entries hread
    simp only [readKind, hread]
    rfl
  | object properties policy text =>
    rw [wellFormed, Bool.and_eq_true, decide_eq_true_eq] at h
    have hproperties : Node.asMap child (Json.object (propertiesToJson properties)).node =
        .ok properties := by
      rw [propertiesToJson_eq_map]
      exact Node.asMap_object h.1 fun property hp =>
        hchild property.2 (List.mem_map_of_mem hp)
    have hpolicy := (Node.inverts_keyword UnknownKeys.get?_names .buffered).read policy
    have hfills : Fills (fieldsOf child .object)
        [Json.field "properties" (.object (propertiesToJson properties)),
          Json.field "unknownKeys" (.string policy.text)]
        {} { properties, unknownKeys := policy } :=
      .defaulted "properties" hproperties (.defaulted "unknownKeys" hpolicy (.nil _))
    apply readNode_of_fills hfills rfl ?_ medium
    intro entries hread
    simp only [readKind, hread]
    rfl
  | record values text =>
    have hfills : Fills (fieldsOf child .record) [Json.field "values" values.toJson] {}
        { inner := some values } :=
      .required "values" (hchild values (.head _)) (.nil _)
    apply readNode_of_fills hfills rfl ?_ medium
    intro entries hread
    simp only [readKind, hread]
    rfl
  | union options text =>
    have hoptions : Node.asList child (Json.array (optionsToJson options)).node =
        .ok options := by
      rw [optionsToJson_eq_map]
      exact Node.asList_array hchild
    have hfills : Fills (fieldsOf child .union)
        [Json.field "options" (.array (optionsToJson options))] {} { options := some options } :=
      .required "options" hoptions (.nil _)
    apply readNode_of_fills hfills rfl ?_ medium
    intro entries hread
    simp only [readKind, hread]
    rfl

-- The induction is on the depth that may be read, and not on the schema: a schema directly inside
-- of another one is written less deep than that.
theorem readWithin_toJson {depth : Nat} (medium : Medium) {schema : Schema}
    (h : schema.wellFormed = true) (hdepth : schema.toJson.node.depth < depth) :
    readWithin depth medium schema.toJson.node = .ok schema := by
  induction depth generalizing medium schema with
  | zero => omega
  | succ depth ih =>
    apply readNode_toJson medium h
    intro part hm
    have hless := depth_lt_of_mem_inside hm
    exact ih .buffered (wellFormed_of_mem_inside h hm) (by omega)

theorem read_toJson (medium : Medium) {schema : Schema} (h : schema.wellFormed = true) :
    read medium schema.toJson.node = .ok schema :=
  readWithin_toJson medium h (Nat.lt_succ_self _)

end Schema

end ApiDescription
