import ApiDescription.Proofs.Schema.Layers
import ApiDescription.Proofs.Schema.Refinement

namespace ApiDescription

-- A call that puts a layer around a schema, of which the export has at most that null is allowed.
inductive LayerCall where
  | nullable
  | optional
  | refine (message : String)

def LayerCall.apply : LayerCall → Schema → Schema
  | nullable => Schema.nullable
  | optional => Schema.optional
  | refine message => Schema.refine message

namespace Schema

-- What a layer that allows null leaves behind, so that another one finds nothing to do.
structure Marked (entries : Entries Json) : Prop where
  shaped : entries.contains "type" = true ∨ entries.contains "anyOf" = true
  flag : entries.get? "nullable" = some (.bool true)

theorem marked_exportNullable (inner : Entries Json) : Marked (exportNullable .openApi3 inner) := by
  refine ⟨?_, get?_nullable_exportNullable inner⟩
  rw [exportNullable]
  split
  · rename_i h
    have hother : ∀ key ≠ "nullable",
        (inner.insert "nullable" (.bool true)).contains key = inner.contains key :=
      fun key hne => congrArg Option.isSome (Entries.get?_insert_of_ne hne inner _)
    rw [hother "type" (by decide), hother "anyOf" (by decide)]
    exact Bool.or_eq_true_iff.mp h
  · exact .inr rfl

theorem Marked.exportNullable {entries : Entries Json} (h : Marked entries) :
    exportNullable .openApi3 entries = entries := by
  rw [Schema.exportNullable, if_pos (Bool.or_eq_true_iff.mpr h.shaped)]
  exact Entries.insert_eq_self h.flag

theorem Marked.exportDescribed {entries : Entries Json} (h : Marked entries)
    (text : Option String) : Marked (exportDescribed text entries) := by
  have hkey : ∀ key ≠ "description",
      (Schema.exportDescribed text entries).get? key = entries.get? key :=
    fun key hne => get?_exportDescribed hne text entries
  refine ⟨?_, (hkey "nullable" (by decide)).trans h.flag⟩
  rw [Entries.contains, Entries.contains, hkey "type" (by decide), hkey "anyOf" (by decide)]
  exact h.shaped

-- The layer has taken over the description, so that it is the same one that is inserted again.
theorem exportEntries_nullable_nullable (schema : Schema) :
    exportEntries .openApi3 schema.nullable.nullable = exportEntries .openApi3 schema.nullable := by
  have hmarked : Marked (exportEntries .openApi3 schema.nullable) :=
    (marked_exportNullable _).exportDescribed schema.description
  have houter : exportEntries .openApi3 schema.nullable.nullable =
      exportDescribed schema.nullable.description
        (exportNullable .openApi3 (exportEntries .openApi3 schema.nullable)) := by
    rw [nullable, wrap, exportEntries]
    rfl
  rw [houter, hmarked.exportNullable, exportDescribed_description]

-- Two schemas of which a layer around them shows the same.
structure SameShown (dialect : Dialect) (a b : Schema) : Prop where
  exportEntries : a.exportEntries dialect = b.exportEntries dialect
  description : a.description = b.description

variable {dialect : Dialect}

theorem SameShown.nullable {a b : Schema} (h : SameShown dialect a b) :
    SameShown dialect a.nullable b.nullable := by
  refine ⟨?_, h.description⟩
  rw [Schema.nullable, Schema.nullable, wrap, wrap, Schema.exportEntries, Schema.exportEntries,
    h.exportEntries, h.description]

theorem SameShown.trans {a b c : Schema} (hab : SameShown dialect a b)
    (hbc : SameShown dialect b c) : SameShown dialect a c :=
  ⟨hab.exportEntries.trans hbc.exportEntries, hab.description.trans hbc.description⟩

-- Any other call leaves the export as it is.
theorem sameShown_apply {call : LayerCall} (h : call ≠ .nullable) (schema : Schema) :
    SameShown dialect (call.apply schema) schema := by
  cases call with
  | nullable => exact absurd rfl h
  | optional | refine message => exact ⟨exportDescribed_description dialect schema, rfl⟩

def afterCalls (schema : Schema) (calls : List LayerCall) : Schema :=
  calls.foldl (fun schema call => call.apply schema) schema

theorem afterCalls_append_singleton (schema : Schema) (calls : List LayerCall) (call : LayerCall) :
    schema.afterCalls (calls ++ [call]) = call.apply (schema.afterCalls calls) := by
  rw [afterCalls, List.foldl_append]
  rfl

theorem sameShown_afterCalls (schema : Schema) {calls : List LayerCall}
    (h : LayerCall.nullable ∉ calls) : SameShown dialect (schema.afterCalls calls) schema := by
  induction calls using List.reverseRecOn with
  | nil => exact ⟨rfl, rfl⟩
  | append_singleton calls call ih =>
    rw [afterCalls_append_singleton]
    obtain ⟨hcalls, hcall⟩ : LayerCall.nullable ∉ calls ∧ call ≠ .nullable := by
      simpa [eq_comm] using h
    exact (sameShown_apply hcall _).trans (ih hcalls)

theorem sameShown_nullable_afterCalls (schema : Schema) {calls : List LayerCall}
    (h : LayerCall.nullable ∈ calls) :
    SameShown .openApi3 (schema.afterCalls calls) schema.nullable := by
  induction calls using List.reverseRecOn with
  | nil => cases h
  | append_singleton calls call ih =>
    rw [afterCalls_append_singleton]
    by_cases hcall : call = .nullable
    · subst hcall
      by_cases hcalls : LayerCall.nullable ∈ calls
      · exact (ih hcalls).nullable.trans ⟨exportEntries_nullable_nullable schema, rfl⟩
      · exact (sameShown_afterCalls schema hcalls).nullable
    · have hcalls : LayerCall.nullable ∈ calls := by simpa [Ne.symm hcall] using h
      exact (sameShown_apply hcall _).trans (ih hcalls)

-- However often null is allowed, and whatever optional layers and refinements come in between, the
-- flag is set once. Without any such call nothing is seen of the layers, in either dialect.
theorem nullable_shown_once (schema : Schema) (calls : List LayerCall) :
    (LayerCall.nullable ∈ calls →
      (schema.afterCalls calls).toJsonSchema .openApi3 = schema.nullable.toJsonSchema .openApi3) ∧
    (LayerCall.nullable ∉ calls → ∀ dialect,
      (schema.afterCalls calls).toJsonSchema dialect = schema.toJsonSchema dialect) := by
  refine ⟨fun h => ?_, fun h dialect => ?_⟩
  · rw [toJsonSchema, toJsonSchema, (sameShown_nullable_afterCalls schema h).exportEntries]
  · rw [toJsonSchema, toJsonSchema, (sameShown_afterCalls schema h).exportEntries]

-- A choice of one value without a type, so that it becomes the member of a choice of schemas.
def noTags : Schema := (literal (.array [])).describe "No tags"

theorem nullable_shown_once_noTags :
    LayerCall.nullable ∈ [LayerCall.optional, .nullable, .refine "empty", .nullable] ∧
    (noTags.afterCalls [.optional, .nullable, .refine "empty", .nullable]).toJsonSchema .openApi3 =
      .object [
        ("anyOf", .array [.object [
          ("enum", .array [.array []]), ("description", .string "No tags")]]),
        ("nullable", .bool true), ("description", .string "No tags")] ∧
    (noTags.afterCalls [.optional, .refine "empty"]).toJsonSchema .draft7 =
      noTags.toJsonSchema .draft7 := by
  have hcalls : LayerCall.nullable ∈ [LayerCall.optional, .nullable, .refine "empty", .nullable] :=
    by simp
  refine ⟨hcalls, ?_, ?_⟩
  · rw [(nullable_shown_once noTags _).1 hcalls]
    rfl
  · exact (nullable_shown_once noTags [.optional, .refine "empty"]).2 (by simp) .draft7

end Schema

end ApiDescription
