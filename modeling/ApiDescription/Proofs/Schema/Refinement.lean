import ApiDescription.Proofs.Schema.Context

namespace ApiDescription.Schema

-- Two schemas between which neither an export nor the questions of a document can tell.
structure Alike (a b : Schema) : Prop where
  exportEntries : ∀ dialect, exportEntries dialect a = exportEntries dialect b
  isOptional : a.isOptional = b.isOptional
  isArray : a.isArray = b.isArray

theorem requiredNames_congr {a b : Schema} (h : a.isOptional = b.isOptional)
    (before : List (String × Schema)) (name : String) (after : List (String × Schema)) :
    requiredNames (before ++ (name, a) :: after) = requiredNames (before ++ (name, b) :: after) := by
  simp only [requiredNames, List.filter_append, List.filter_cons, List.map_append, h]
  split <;> rfl

-- What cannot be told from outside cannot be told through one more node either.
theorem Alike.frame {a b : Schema} (h : Alike a b) (frame : Frame) :
    Alike (frame.fill a) (frame.fill b) := by
  cases frame with
  | items limits text =>
    refine ⟨fun dialect => ?_, rfl, rfl⟩
    simp only [Frame.fill, Schema.exportEntries, h.exportEntries dialect]
  | property before name after policy text =>
    refine ⟨fun dialect => ?_, rfl, rfl⟩
    simp only [Frame.fill, Schema.exportEntries, exportProperties_eq_map, List.map_append,
      List.map_cons, h.exportEntries dialect, requiredNames_congr h.isOptional]
  | values text =>
    refine ⟨fun dialect => ?_, rfl, rfl⟩
    simp only [Frame.fill, Schema.exportEntries, h.exportEntries dialect]
  | option before after text =>
    refine ⟨fun dialect => ?_, ?_, rfl⟩
    · simp only [Frame.fill, Schema.exportEntries, exportOptions_eq_map, List.map_append,
        List.map_cons, h.exportEntries dialect]
    · simp only [Frame.fill, Schema.isOptional, anyOptional_eq_any, List.any_append, List.any_cons,
        h.isOptional]
  | inner wrapper text =>
    refine ⟨fun dialect => ?_, ?_, h.isArray⟩
    · simp only [Frame.fill, Schema.exportEntries, h.exportEntries dialect]
    · cases wrapper with
      | optional | default value => rfl
      | nullable | refine message => exact h.isOptional

theorem Alike.context {a b : Schema} (h : Alike a b) (context : Context) :
    Alike (context.fill a) (context.fill b) := by
  induction context with
  | nil => exact h
  | cons frame rest ih => exact ih.frame frame

-- A node that has a description has put it into its export.
theorem exportDescribed_description (dialect : Dialect) (schema : Schema) :
    exportDescribed schema.description (schema.exportEntries dialect) =
      schema.exportEntries dialect := by
  have hagain : ∀ (text : Option String) (entries : Entries Json),
      exportDescribed text (exportDescribed text entries) = exportDescribed text entries := by
    intro text entries
    cases text with
    | none => rfl
    | some text =>
      apply Entries.insert_eq_self
      rw [exportDescribed, Entries.get?_insert_self]
  cases schema with
  | leaf kind text | array items limits text | object properties policy text
  | record values text | union options text | wrapped wrapper inner text =>
    rw [exportEntries]
    exact hagain text _

-- The refinement takes over the description, so it is the same one that is inserted again.
theorem alike_refine (message : String) (schema : Schema) :
    Alike (schema.refine message) schema := by
  refine ⟨fun dialect => ?_, rfl, rfl⟩
  rw [refine, wrap, Schema.exportEntries, exportWrapped]
  exact exportDescribed_description dialect schema

theorem refinement_invisible (context : Context) (message : String) (schema : Schema) :
    (∀ dialect, (context.fill (schema.refine message)).toJsonSchema dialect =
      (context.fill schema).toJsonSchema dialect) ∧
    (context.fill (schema.refine message)).isOptional = (context.fill schema).isOptional ∧
    (context.fill (schema.refine message)).isArray = (context.fill schema).isArray := by
  have h := (alike_refine message schema).context context
  refine ⟨fun dialect => ?_, h.isOptional, h.isArray⟩
  rw [toJsonSchema, toJsonSchema, h.exportEntries dialect]

end ApiDescription.Schema
