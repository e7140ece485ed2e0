import ApiDescription.Proofs.Schema.Properties
import ApiDescription.Proofs.Schema.Ranges
import ApiDescription.Proofs.Schema.TypeNames

namespace ApiDescription.Schema

-- The nodes that the two dialects write in different ways.
inductive WrittenApart : Schema → Prop where
  | literal (value : Json) (text : Option String) : WrittenApart (.leaf (.literal value) text)
  | null (text : Option String) : WrittenApart (.leaf .null text)
  | nullable (inner : Schema) (text : Option String) : WrittenApart (.wrapped .nullable inner text)
  | minimum {limits : NumberLimits} {limit : Number} (text : Option String) :
    limits.minimum = some ⟨limit, true⟩ → WrittenApart (.leaf (.number limits) text)
  | maximum {limits : NumberLimits} {limit : Number} (text : Option String) :
    limits.maximum = some ⟨limit, true⟩ → WrittenApart (.leaf (.number limits) text)

theorem boundEntries_of_inclusive {bound : Option Bound}
    (h : ∀ limit, bound ≠ some ⟨limit, true⟩) (name exclusiveName : String) :
    boundEntries .openApi3 name exclusiveName bound =
      boundEntries .draft7 name exclusiveName bound := by
  rcases bound with _ | ⟨limit, _ | _⟩
  · rfl
  · rfl
  · exact absurd rfl (h limit)

theorem exportLeaf_agree {kind : Leaf} {text : Option String}
    (h : ¬WrittenApart (leaf kind text)) : exportLeaf .openApi3 kind = exportLeaf .draft7 kind := by
  cases kind with
  | number limits =>
    have hminimum := boundEntries_of_inclusive (fun limit he => h (.minimum text he))
    have hmaximum := boundEntries_of_inclusive (fun limit he => h (.maximum text he))
    rw [exportLeaf, exportLeaf, exportNumber, exportNumber, hminimum, hmaximum]
  | null => exact absurd (.null text) h
  | literal value => exact absurd (.literal value text) h
  | string | boolean | enumeration | void | any => rfl

-- Without such a node at any depth.
def WrittenAlike (schema : Schema) : Prop := ∀ part, schema.Contains part → ¬part.WrittenApart

theorem writtenAlike_iff (schema : Schema) :
    schema.WrittenAlike ↔ ¬schema.WrittenApart ∧ ∀ child ∈ schema.inside, child.WrittenAlike := by
  constructor
  · intro h
    exact ⟨h schema ((contains_iff _ _).mpr (.inl rfl)),
      fun child hm part hpart => h part ((contains_iff _ _).mpr (.inr ⟨child, hm, hpart⟩))⟩
  · rintro ⟨hself, hinside⟩ part hpart
    rcases (contains_iff _ _).mp hpart with rfl | ⟨child, hm, hpart⟩
    · exact hself
    · exact hinside child hm part hpart

theorem exportEntries_agree {schema : Schema} (h : schema.WrittenAlike) :
    exportEntries .openApi3 schema = exportEntries .draft7 schema := by
  induction schema using Schema.induction with
  | leaf kind text =>
    rw [exportEntries, exportEntries, exportLeaf_agree ((writtenAlike_iff _).mp h).1]
  | array items limits text ih =>
    have hitems := ((writtenAlike_iff _).mp h).2 items (List.mem_singleton.mpr rfl)
    rw [exportEntries, exportEntries, ih hitems]
  | object properties policy text ih =>
    have hproperties : ∀ property ∈ properties, property.2.WrittenAlike :=
      List.forall_mem_map.mp ((writtenAlike_iff _).mp h).2
    have hexport : exportProperties .openApi3 properties = exportProperties .draft7 properties := by
      rw [exportProperties_eq_map, exportProperties_eq_map]
      exact List.map_congr_left fun property hm => by rw [ih property hm (hproperties property hm)]
    rw [exportEntries, exportEntries, hexport]
  | record values text ih =>
    have hvalues := ((writtenAlike_iff _).mp h).2 values (List.mem_singleton.mpr rfl)
    rw [exportEntries, exportEntries, ih hvalues]
  | union options text ih =>
    have hexport : exportOptions .openApi3 options = exportOptions .draft7 options := by
      rw [exportOptions_eq_map, exportOptions_eq_map]
      exact List.map_congr_left fun option hm => by
        rw [ih option hm (((writtenAlike_iff _).mp h).2 option hm)]
    rw [exportEntries, exportEntries, hexport]
  | wrapped wrapper inner text ih =>
    obtain ⟨hself, hinside⟩ := (writtenAlike_iff _).mp h
    rw [exportEntries, exportEntries, ih (hinside inner (List.mem_singleton.mpr rfl))]
    cases wrapper with
    | optional | default value | refine message => rfl
    | nullable => exact absurd (.nullable inner text) hself

-- The keys that a layer can put into an export of which it changes nothing else.
def remarks : List String := ["description", "default"]

theorem nullable_differs {schema : Schema}
    (h : (schema.toJsonSchema .openApi3).get? "nullable" = some (.bool true)) :
    (schema.toJsonSchema .openApi3).get? "nullable" ≠
      (schema.toJsonSchema .draft7).get? "nullable" := by
  have hdraft : Json.ObeysDraft7 (schema.toJsonSchema .draft7) :=
    (sound_toJsonSchema .draft7 schema).obeys
  rw [h, hdraft.nullable]
  nofun

-- A node that is written apart shows it under a key that is not a remark.
theorem writtenApart_differs {schema : Schema} (h : schema.WrittenApart) :
    ∃ key, key ∉ remarks ∧
      (schema.toJsonSchema .openApi3).get? key ≠ (schema.toJsonSchema .draft7).get? key := by
  cases h with
  | literal value text =>
    have hkey : ∀ key, key ≠ "description" → ∀ dialect,
        ((leaf (.literal value) text).toJsonSchema dialect).get? key =
          (exportLiteral dialect value).get? key :=
      fun key hne dialect => get?_exportDescribed hne text _
    cases value with
    | null =>
      refine ⟨"nullable", by decide, nullable_differs ?_⟩
      rw [hkey "nullable" (by decide)]
      rfl
    | bool | number | string | array | object =>
      refine ⟨"enum", by decide, ?_⟩
      rw [hkey "enum" (by decide), hkey "enum" (by decide)]
      nofun
  | null text =>
    refine ⟨"nullable", by decide, nullable_differs ?_⟩
    exact get?_exportDescribed (by decide) text _
  | nullable inner text =>
    refine ⟨"nullable", by decide, nullable_differs ?_⟩
    exact (get?_exportDescribed (by decide) text _).trans (get?_nullable_exportNullable _)
  | minimum text h =>
    refine ⟨"exclusiveMinimum", by decide, ?_⟩
    rw [get?_minimum _ _ _ _ (by decide), get?_minimum _ _ _ _ (by decide), h]
    nofun
  | maximum text h =>
    refine ⟨"exclusiveMaximum", by decide, ?_⟩
    rw [get?_maximum _ _ _ _ (by decide), get?_maximum _ _ _ _ (by decide), h]
    nofun

theorem get?_layer {wrapper : Wrapper} (hwrapper : wrapper ≠ .nullable) (dialect : Dialect)
    (inner : Schema) (text : Option String) {key : String} (hkey : key ∉ remarks) :
    ((wrapped wrapper inner text).toJsonSchema dialect).get? key =
      (inner.toJsonSchema dialect).get? key := by
  have hdescription : "description" ≠ key := ne_of_mem_of_not_mem (by decide) hkey
  have hdefault : "default" ≠ key := ne_of_mem_of_not_mem (by decide) hkey
  have htext : ((wrapped wrapper inner text).toJsonSchema dialect).get? key =
      (exportWrapped dialect (exportEntries dialect inner) wrapper).get? key :=
    get?_exportDescribed hdescription.symm text _
  rw [htext]
  cases wrapper with
  | optional | refine message => rfl
  | default value => exact Entries.get?_insert_of_ne hdefault.symm _ value
  | nullable => exact absurd rfl hwrapper

-- What differs inside differs outside.
theorem writtenAlike_of_agree {schema : Schema}
    (h : ∀ key, key ∉ remarks →
      (schema.toJsonSchema .openApi3).get? key = (schema.toJsonSchema .draft7).get? key) :
    schema.WrittenAlike := by
  have hself : ∀ schema : Schema, (∀ key, key ∉ remarks →
      (schema.toJsonSchema .openApi3).get? key = (schema.toJsonSchema .draft7).get? key) →
      ¬schema.WrittenApart := by
    intro schema h hapart
    obtain ⟨key, hkey, hne⟩ := writtenApart_differs hapart
    exact hne (h key hkey)
  induction schema using layer_induction with
  | bare schema hbare ih =>
    refine (writtenAlike_iff schema).mpr ⟨hself schema h, fun child hm => ?_⟩
    have hplaces : ∀ key ∈ Json.places, key ∉ remarks := by decide
    have hinside : (schema.toJsonSchema .openApi3).subschemas =
        (schema.toJsonSchema .draft7).subschemas :=
      Json.subschemas_congr fun key hm => h key (hplaces key hm)
    rw [subschemas_toJsonSchema _ hbare, subschemas_toJsonSchema _ hbare] at hinside
    have hchild := List.map_inj_left.mp hinside child hm
    exact ih child hm fun key _ => by rw [hchild]
  | layer wrapper inner text ih =>
    have hlayer := hself _ h
    have hwrapper : wrapper ≠ .nullable := by
      rintro rfl
      exact hlayer (.nullable inner text)
    refine (writtenAlike_iff _).mpr ⟨hlayer, List.forall_mem_singleton.mpr (ih fun key hkey => ?_)⟩
    rw [← get?_layer hwrapper _ inner text hkey, h key hkey, get?_layer hwrapper _ inner text hkey]

-- What two schema objects say of the same objects, but for the schemas of their properties.
structure SameObject (a b : Json) : Prop where
  properties : ∃ as bs : Entries Json, a.get? "properties" = some (.object as) ∧
    b.get? "properties" = some (.object bs) ∧ as.keys = bs.keys
  required : a.get? "required" = b.get? "required"
  others : ∃ accepted, a.get? "additionalProperties" = some (.bool accepted) ∧
    b.get? "additionalProperties" = some (.bool accepted)

theorem sameObject_toJsonSchema (properties : List (String × Schema)) (policy : UnknownKeys)
    (text : Option String) (dialect other : Dialect) :
    SameObject ((object properties policy text).toJsonSchema dialect)
      ((object properties policy text).toJsonSchema other) := by
  have hkey : ∀ dialect key, key ≠ "description" →
      ((object properties policy text).toJsonSchema dialect).get? key =
        (exportObject (exportProperties dialect properties) (requiredNames properties)
          policy).get? key :=
    fun dialect key hne => get?_exportDescribed hne text _
  have hnames : ∀ dialect,
      (exportProperties dialect properties).keys = properties.map Prod.fst := by
    intro dialect
    rw [exportProperties_eq_map, Entries.keys, List.map_map]
    rfl
  refine ⟨⟨_, _, hkey dialect "properties" (by decide), hkey other "properties" (by decide), ?_⟩,
    ?_, policy = .passthrough, ?_, ?_⟩
  · rw [hnames, hnames]
  · rw [hkey _ "required" (by decide), hkey _ "required" (by decide), get?_required_exportObject,
      get?_required_exportObject]
  · rw [hkey _ "additionalProperties" (by decide), get?_others_exportObject]
  · rw [hkey _ "additionalProperties" (by decide), get?_others_exportObject]

-- The same of two exports in which the node stands anywhere, within whatever layers.
theorem RendersObject.sameObject {dialect other : Dialect} {properties : List (String × Schema)}
    {policy : UnknownKeys} {a b : Json} (ha : RendersObject dialect properties policy a)
    (hb : RendersObject other properties policy b) : SameObject a b := by
  refine ⟨⟨_, _, ha.shown, hb.shown, ?_⟩, ?_, ?_⟩
  · rw [Entries.keys, Entries.keys, List.map_map, List.map_map]
    rfl
  · have hsome := ha.required_isSome.trans hb.required_isSome.symm
    cases hra : a.get? "required" with
    | none =>
      have hnone : ¬(b.get? "required").isSome = true := by
        rw [← hsome, hra]
        exact Bool.false_ne_true
      exact (Option.not_isSome_iff_eq_none.mp hnone).symm
    | some value =>
      obtain ⟨names, hrb⟩ := Option.isSome_iff_exists.mp (hsome.mp (by rw [hra]; rfl))
      rw [hrb, ha.required value hra, hb.required names hrb]
  · obtain ⟨accepted, hacceptedA, hpolicyA⟩ := ha.others
    obtain ⟨also, hacceptedB, hpolicyB⟩ := hb.others
    obtain rfl : accepted = also := Bool.eq_iff_iff.mpr (hpolicyA.trans hpolicyB.symm)
    exact ⟨accepted, hacceptedA, hacceptedB⟩

-- The exports differ if a node is written apart at some depth, and only then. Of objects they
-- always say the same, at the places to which their nodes come in either export.
theorem dialects_differ_where_documented (schema : Schema) :
    (schema.toJsonSchema .openApi3 = schema.toJsonSchema .draft7 ↔
      ∀ part, schema.Contains part → ¬part.WrittenApart) ∧
    ∀ (context : Context) (properties : List (String × Schema)) (policy : UnknownKeys)
      (text : Option String), schema = context.fill (.object properties policy text) →
        SameObject ((object properties policy text).toJsonSchema .openApi3)
          ((object properties policy text).toJsonSchema .draft7) ∧
        (schema.wellFormed = true → ∃ path other a b, context.Leads path ∧ context.Leads other ∧
          (schema.toJsonSchema .openApi3).follow path = some a ∧
          (schema.toJsonSchema .draft7).follow other = some b ∧ SameObject a b) := by
  refine ⟨⟨fun h => ?_, fun h => ?_⟩, ?_⟩
  · exact writtenAlike_of_agree fun key _ => by rw [h]
  · rw [toJsonSchema, toJsonSchema, exportEntries_agree h]
  · rintro context properties policy text rfl
    refine ⟨sameObject_toJsonSchema properties policy text .openApi3 .draft7, fun h => ?_⟩
    obtain ⟨path, a, hleads, hfollow, ha⟩ := exists_follow_fill .openApi3 context h
    obtain ⟨other, b, hother, hfollowOther, hb⟩ := exists_follow_fill .draft7 context h
    exact ⟨path, other, a, b, hleads, hother, hfollow, hfollowOther, ha.sameObject hb⟩

-- Layers, bounds and values of every kind that the dialects write alike.
def plainOrder : Schema :=
  .object [
    ("id", leaf (.string { format := some .uuid }) none),
    ("count", .wrapped (.default (.number .zero)) (leaf (.number {
      integer := true, minimum := some { value := .zero } }) (some "How many")) none),
    ("state", .wrapped .optional (enumeration ["open", "closed"]) (some "State")),
    ("tags", recordOf (.wrapped (.refine (some "short")) (anyOf [string, boolean]) none))]
    .passthrough none

-- Null is allowed twice of the object, and its property has a bound that is not included.
def orderLayers : Context := [
  .items {} none, .inner .nullable (some "An order"), .inner .nullable none]

def orderProperties : List (String × Schema) := [
  ("price", leaf (.number { minimum := some ⟨.zero, true⟩ }) none),
  ("note", .wrapped .optional string none)]

theorem dialects_differ_where_documented_orders :
    (∀ part, plainOrder.Contains part → ¬part.WrittenApart) ∧
    (orderLayers.fill (.object orderProperties .strict none)).wellFormed = true ∧
    ∃ path other a b, orderLayers.Leads path ∧ orderLayers.Leads other ∧
      ((orderLayers.fill (.object orderProperties .strict none)).toJsonSchema .openApi3).follow
        path = some a ∧
      ((orderLayers.fill (.object orderProperties .strict none)).toJsonSchema .draft7).follow
        other = some b ∧ SameObject a b := by
  have hwell : (orderLayers.fill (.object orderProperties .strict none)).wellFormed = true := by
    decide
  refine ⟨(dialects_differ_where_documented plainOrder).1.mp rfl, hwell, ?_⟩
  exact ((dialects_differ_where_documented _).2 orderLayers orderProperties .strict none rfl).2
    hwell

end ApiDescription.Schema
