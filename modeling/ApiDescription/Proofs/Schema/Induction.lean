import ApiDescription.Schema.Export
import ApiDescription.Schema.Written

namespace ApiDescription

-- To show something of every schema it is enough to show it of each kind of node, given that it
-- holds of the schemas directly inside.
@[elab_as_elim]
theorem Schema.induction {motive : Schema → Prop}
    (leaf : ∀ kind text, motive (.leaf kind text))
    (array : ∀ items limits text, motive items → motive (.array items limits text))
    (object : ∀ properties policy text, (∀ property ∈ properties, motive property.2) →
      motive (.object properties policy text))
    (record : ∀ values text, motive values → motive (.record values text))
    (union : ∀ options text, (∀ option ∈ options, motive option) → motive (.union options text))
    (wrapped : ∀ wrapper inner text, motive inner → motive (.wrapped wrapper inner text)) :
    ∀ schema, motive schema
  | .leaf kind text => leaf kind text
  | .array items limits text =>
    array items limits text (Schema.induction leaf array object record union wrapped items)
  | .object properties policy text =>
    object properties policy text fun property _ =>
      Schema.induction leaf array object record union wrapped property.2
  | .record values text =>
    record values text (Schema.induction leaf array object record union wrapped values)
  | .union options text =>
    union options text fun option _ =>
      Schema.induction leaf array object record union wrapped option
  | .wrapped wrapper inner text =>
    wrapped wrapper inner text (Schema.induction leaf array object record union wrapped inner)
termination_by schema => sizeOf schema
decreasing_by
  all_goals simp only [Schema.array.sizeOf_spec, Schema.object.sizeOf_spec,
    Schema.record.sizeOf_spec, Schema.union.sizeOf_spec, Schema.wrapped.sizeOf_spec]
  · omega
  · rename_i hm
    have hlist := List.sizeOf_lt_of_mem hm
    have hpair : sizeOf property.2 < sizeOf property := by
      obtain ⟨name, schema⟩ := property
      simp only [Prod.mk.sizeOf_spec]
      omega
    omega
  · omega
  · rename_i hm
    have hlist := List.sizeOf_lt_of_mem hm
    omega
  · omega

namespace Schema

theorem exportProperties_eq_map (dialect : Dialect) (properties : List (String × Schema)) :
    exportProperties dialect properties =
      properties.map fun property => (property.1, .object (exportEntries dialect property.2)) := by
  induction properties with
  | nil => rfl
  | cons property rest ih => rw [exportProperties, ih, List.map_cons]

theorem exportOptions_eq_map (dialect : Dialect) (options : List Schema) :
    exportOptions dialect options =
      options.map fun option => .object (exportEntries dialect option) := by
  induction options with
  | nil => rfl
  | cons option rest ih => rw [exportOptions, ih, List.map_cons]

theorem anyOptional_eq_any (options : List Schema) :
    anyOptional options = options.any isOptional := by
  induction options with
  | nil => rfl
  | cons option rest ih => rw [anyOptional, ih, List.any_cons]

theorem propertiesToJson_eq_map (properties : List (String × Schema)) :
    propertiesToJson properties =
      properties.map fun property => (property.1, property.2.toJson) := by
  induction properties with
  | nil => rfl
  | cons property rest ih => rw [propertiesToJson, ih, List.map_cons]

theorem optionsToJson_eq_map (options : List Schema) :
    optionsToJson options = options.map toJson := by
  induction options with
  | nil => rfl
  | cons option rest ih => rw [optionsToJson, ih, List.map_cons]

end Schema

end ApiDescription
