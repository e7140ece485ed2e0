import ApiDescription.Proofs.Endpoint.Resolution
import ApiDescription.Proofs.Schema.Optionality
import ApiDescription.Proofs.Schema.Refinement

namespace ApiDescription

namespace Schema

variable {dialect : Dialect}

-- Layers see nothing but the export of what is inside.
theorem exportEntries_within_congr {a b : Schema}
    (h : a.exportEntries dialect = b.exportEntries dialect) (layers : List Layer) :
    (a.within layers).exportEntries dialect = (b.within layers).exportEntries dialect := by
  induction layers with
  | nil => exact h
  | cons layer rest ih => rw [within_cons, within_cons, exportEntries, exportEntries, ih]

-- An optional layer leaves no trace in an export but its description.
theorem exportEntries_optional {inner : Schema} {text : Option String}
    (htext : text = none ∨ text = inner.description) :
    (wrapped .optional inner text).exportEntries dialect = inner.exportEntries dialect := by
  rw [exportEntries, exportWrapped]
  rcases htext with rfl | rfl
  · rfl
  · exact exportDescribed_description dialect inner

theorem OptionalAt.toJsonSchema {schema : Schema} {before : List Layer} {inner : Schema}
    {text : Option String} (h : schema.OptionalAt before inner text)
    (htext : text = none ∨ text = inner.description) :
    (inner.within before).toJsonSchema dialect = schema.toJsonSchema dialect := by
  rw [Schema.toJsonSchema, Schema.toJsonSchema, h.eq,
    exportEntries_within_congr (exportEntries_optional htext)]

theorem isOptional_of_isSome_stripOptional {schema : Schema}
    (h : schema.stripOptional.isSome = true) : schema.isOptional = true := by
  obtain ⟨stripped, hstrip⟩ := Option.isSome_iff_exists.mp h
  exact isOptional_of_stripOptional hstrip

theorem isArray_getD_stripOptional (schema : Schema) :
    (schema.stripOptional.getD schema).isArray = schema.isArray := by
  cases hstrip : schema.stripOptional with
  | none => rfl
  | some stripped => exact isArray_of_stripOptional hstrip

end Schema

-- A query parameter that is given once for each item of an array.
def Parameter.Repeats (p : Parameter Schema) : Prop :=
  p.carrier = .query ∧ ∃ items limits text, p.schema.innermost = .array items limits text

namespace Endpoint

theorem shownName_of_repeats {p : Parameter Schema} (h : p.Repeats) :
    shownName p = p.name ++ "[]" := by
  obtain ⟨hcarrier, harray⟩ := h
  have hisArray : SchemaView.isArray p.schema = true := (Schema.isArray_iff p.schema).mpr harray
  rw [shownName, hcarrier, hisArray]
  rfl

theorem shownName_of_not_repeats {p : Parameter Schema} (h : ¬p.Repeats) :
    shownName p = p.name := by
  rw [shownName, if_neg]
  intro hc
  obtain ⟨hcarrier, harray⟩ := (Bool.and_eq_true _ _).mp hc
  exact h ⟨of_decide_eq_true hcarrier, (Schema.isArray_iff p.schema).mp harray⟩

theorem shownName_shownSchema (p : Parameter Schema) :
    shownName { p with schema := shownSchema p.schema } = shownName p := by
  have harray : SchemaView.isArray (shownSchema p.schema) = SchemaView.isArray p.schema :=
    Schema.isArray_getD_stripOptional p.schema
  rw [shownName, shownName, harray]

-- To ask first whether the value may be absent changes nothing: where there is an optional layer to
-- take away, it may.
theorem ite_isOptional_shownSchema (schema : Schema) :
    (if SchemaView.isOptional schema then shownSchema schema else schema) =
      schema.stripOptional.getD schema := by
  cases hoptional : schema.isOptional with
  | true => exact if_pos hoptional
  | false =>
    cases hstrip : schema.stripOptional with
    | none => exact if_neg (Bool.eq_false_iff.mp hoptional)
    | some stripped =>
      rw [Schema.isOptional_of_stripOptional hstrip] at hoptional
      cases hoptional

-- The name and the schema under which a query or header parameter is shown.
structure ShowsDeclared (p : Parameter Schema) (name : String) (schema : Json) : Prop where
  stripped : schema = (p.schema.stripOptional.getD p.schema).toJsonSchema .openApi3
  lossless : ∀ before inner text, p.schema.OptionalAt before inner text →
    text = none ∨ text = inner.description → schema = p.schema.toJsonSchema .openApi3
  bracketed : name = p.name ++ "[]" ↔ p.Repeats
  plain : name = p.name ↔ ¬p.Repeats

theorem showsDeclared (p : Parameter Schema) :
    ShowsDeclared p (shownName p)
      ((p.schema.stripOptional.getD p.schema).toJsonSchema .openApi3) := by
  have hbrackets : p.name ++ "[]" ≠ p.name := by simp
  refine ⟨rfl, ?_, ?_, ?_⟩
  · intro before inner text hat htext
    rw [hat.stripOptional]
    exact hat.toJsonSchema htext
  · refine ⟨fun hname => by_contra fun hn => ?_, shownName_of_repeats⟩
    exact hbrackets (hname.symm.trans (shownName_of_not_repeats hn))
  · refine ⟨fun hname hrepeats => ?_, shownName_of_not_repeats⟩
    exact hbrackets ((shownName_of_repeats hrepeats).symm.trans hname)

-- What a parameter's schema is asked for its name, for whether it is required and for its export
-- fits together, whatever layers are around it.
theorem declared_rendered (p : Parameter Schema)
    (hp : p.carrier = .query ∨ p.carrier = .header) :
    (∃ name schema, ShowsDeclared p name schema ∧
      declaredEntry p = some (.parameter name p.carrier.text.toLower p.text
        (!p.schema.isOptional) schema)) ∧
    (p.schema.stripOptional.isSome = true → p.schema.isOptional = true) ∧
    shownName { p with schema := shownSchema p.schema } = shownName p := by
  refine ⟨⟨_, _, showsDeclared p, ?_⟩, Schema.isOptional_of_isSome_stripOptional,
    shownName_shownSchema p⟩
  rw [declaredEntry_eq, if_pos hp, shownParameter_eq, ite_isOptional_shownSchema]
  rfl

-- A list that may be left out, under layers on both sides of that.
def sizesParameter : Parameter Schema where
  name := "sizes"
  carrier := .query
  schema := Schema.within (.arrayOf .integer) [
    (.nullable, some "Sizes"), (.default (.array []), none), (.optional, none),
    (.refine (some "sorted"), none), (.nullable, none)]

theorem declared_rendered_sizes :
    sizesParameter.Repeats ∧
    declaredEntry sizesParameter = some (.parameter "sizes[]" "query" (some "Sizes") false
      (sizesParameter.schema.toJsonSchema .openApi3)) := by
  obtain ⟨⟨name, schema, hshows, hentry⟩, -, -⟩ := declared_rendered sizesParameter (.inl rfl)
  have hrepeats : sizesParameter.Repeats := ⟨rfl, _, _, _, rfl⟩
  have hat : sizesParameter.schema.OptionalAt
      [(.nullable, some "Sizes"), (.default (.array []), none)] _ none :=
    ⟨rfl, by simp [Layer.isTransparent]⟩
  have hlower : sizesParameter.carrier.text.toLower = "query" := Carrier.toLower_text rfl
  refine ⟨hrepeats, ?_⟩
  rw [hentry, hshows.bracketed.mpr hrepeats, hshows.lossless _ _ _ hat (.inl rfl), hlower]
  rfl

end Endpoint

end ApiDescription
