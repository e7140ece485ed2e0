import ApiDescription.Proofs.Document.Paths
import ApiDescription.Proofs.Schema.Dialect

namespace ApiDescription

namespace Json

-- The values inside of an object.
def members : Json → List Json
  | object entries => entries.map Prod.snd
  | _ => []

def elements : Json → List Json
  | array items => items
  | _ => []

def under (value : Json) (key : String) : List Json := (value.get? key).toList

-- The schemas of a request body or of a response, one for each media type.
def contentSchemas (holder : Json) : List Json :=
  (holder.under "content").flatMap fun content => content.members.flatMap fun medium =>
    medium.under "schema"

def operationSchemas (operation : Json) : List Json :=
  (operation.under "parameters").flatMap (fun parameters => parameters.elements.flatMap fun p =>
    p.under "schema") ++
  (operation.under "requestBody").flatMap contentSchemas ++
  (operation.under "responses").flatMap fun responses => responses.members.flatMap contentSchemas

def definedSchemas (document : Json) : List Json :=
  (document.under "components").flatMap fun components =>
    (components.under "schemas").flatMap members

-- The schemas that a document holds, each with everything inside of it.
def embeddedSchemas (document : Json) : List Json :=
  document.definedSchemas ++
    (document.under "paths").flatMap fun paths => paths.members.flatMap fun item =>
      item.members.flatMap operationSchemas

theorem under_of_get? {value inner : Json} {key : String} (h : value.get? key = some inner) :
    value.under key = [inner] := by
  rw [under, h, Option.toList_some]

end Json

-- The schema of a placeholder that no endpoint declares.
def undeclaredSchema : Json := .object [("type", .string "string")]

variable {σ : Type} [SchemaView σ]

-- What can stand as a schema in a document.
def Embeddable (σ : Type) [SchemaView σ] (schema : Json) : Prop :=
  schema = undeclaredSchema ∨ ∃ source : σ, schema = SchemaView.toJsonSchema .openApi3 source

theorem embeddable_toJsonSchema (source : σ) :
    Embeddable σ (SchemaView.toJsonSchema .openApi3 source) := .inr ⟨source, rfl⟩

theorem under_schema_parameterEntry (name location : String) (text : Option String)
    (required : Bool) (schema : Json) :
    (parameterEntry name location text required schema).under "schema" = [schema] := by
  apply Json.under_of_get?
  simp [parameterEntry]

theorem contentSchemas_jsonContent {holder : Json} {schema : σ}
    (h : holder.get? "content" = some (jsonContent schema)) :
    holder.contentSchemas = [SchemaView.toJsonSchema .openApi3 schema] := by
  rw [Json.contentSchemas, Json.under_of_get? h]
  rfl

theorem contentSchemas_responseEntry (text : String) (schema : σ) :
    (Endpoint.responseEntry text schema).contentSchemas =
      [SchemaView.toJsonSchema .openApi3 schema] :=
  contentSchemas_jsonContent rfl

namespace Endpoint

theorem embeddable_placeholderEntry (e : Endpoint σ) (name : String) :
    ∀ schema ∈ (e.placeholderEntry name).under "schema", Embeddable σ schema := by
  rw [placeholderEntry]
  split
  · rw [under_schema_parameterEntry]
    exact List.forall_mem_singleton.mpr (embeddable_toJsonSchema _)
  · rw [under_schema_parameterEntry]
    exact List.forall_mem_singleton.mpr (.inl rfl)

theorem embeddable_declaredEntry {p : Parameter σ} {entry : Json}
    (h : declaredEntry p = some entry) :
    ∀ schema ∈ entry.under "schema", Embeddable σ schema := by
  unfold declaredEntry at h
  split at h
  · cases h
    rw [under_schema_parameterEntry]
    exact List.forall_mem_singleton.mpr (embeddable_toJsonSchema _)
  · cases h
    rw [under_schema_parameterEntry]
    exact List.forall_mem_singleton.mpr (embeddable_toJsonSchema _)
  · cases h

theorem embeddable_parameterEntries (e : Endpoint σ) (t : Path.Template) :
    ∀ entry ∈ e.parameterEntries t, ∀ schema ∈ entry.under "schema", Embeddable σ schema := by
  intro entry hm
  rcases List.mem_append.mp hm with hm | hm
  · obtain ⟨name, _, rfl⟩ := List.mem_map.mp hm
    exact e.embeddable_placeholderEntry name
  · obtain ⟨p, _, hp⟩ := List.mem_filterMap.mp hm
    exact embeddable_declaredEntry hp

theorem embeddable_requestBody {e : Endpoint σ} {body : Json} (h : e.requestBody = some body) :
    ∀ schema ∈ body.contentSchemas, Embeddable σ schema := by
  obtain ⟨p, _, rfl⟩ := Option.map_eq_some_iff.mp h
  have hcontent : (Json.present [Json.field? "description" p.text .string,
      Json.field "content" (jsonContent p.schema)]).get? "content" =
      some (jsonContent p.schema) := by simp
  rw [contentSchemas_jsonContent hcontent]
  exact List.forall_mem_singleton.mpr (embeddable_toJsonSchema _)

theorem embeddable_responses (e : Endpoint σ) :
    ∀ response ∈ e.responses, ∀ schema ∈ response.2.contentSchemas, Embeddable σ schema := by
  intro response hm
  have hentry : ∃ text, ∃ source : σ, response.2 = responseEntry text source := by
    rcases Entries.mem_extend hm with hm | hm
    · rw [List.mem_singleton.mp hm]
      exact ⟨_, _, rfl⟩
    · obtain ⟨error, _, rfl⟩ := List.mem_map.mp hm
      exact ⟨_, _, rfl⟩
  obtain ⟨text, source, he⟩ := hentry
  rw [he, contentSchemas_responseEntry]
  exact List.forall_mem_singleton.mpr (embeddable_toJsonSchema _)

theorem operationSchemas_operation (tags : Path.Tagging) (e : Endpoint σ)
    (security : Option Requirement) :
    (e.operation tags security).operationSchemas =
      (e.parameterEntries (Path.analyze e.path)).flatMap (fun entry => entry.under "schema") ++
      e.requestBody.toList.flatMap Json.contentSchemas ++
      (e.responses.map Prod.snd).flatMap Json.contentSchemas := by
  have hparameters : (e.operation tags security).get? "parameters" =
      some (.array (e.parameterEntries (Path.analyze e.path))) := by simp [operation]
  have hbody : (e.operation tags security).get? "requestBody" = e.requestBody := by
    simp [operation]
  have hresponses : (e.operation tags security).get? "responses" =
      some (.object e.responses) := by simp [operation]
  rw [Json.operationSchemas, Json.under_of_get? hparameters, Json.under_of_get? hresponses,
    Json.under, hbody, List.flatMap_singleton, List.flatMap_singleton]
  rfl

theorem embeddable_operation (tags : Path.Tagging) (e : Endpoint σ)
    (security : Option Requirement) :
    ∀ schema ∈ (e.operation tags security).operationSchemas, Embeddable σ schema := by
  rw [operationSchemas_operation]
  intro schema hm
  rw [List.mem_append, List.mem_append] at hm
  rcases hm with (hm | hm) | hm
  · obtain ⟨entry, he, hs⟩ := List.mem_flatMap.mp hm
    exact e.embeddable_parameterEntries _ entry he schema hs
  · obtain ⟨body, hb, hs⟩ := List.mem_flatMap.mp hm
    exact embeddable_requestBody (Option.mem_toList.mp hb) schema hs
  · obtain ⟨value, hv, hs⟩ := List.mem_flatMap.mp hm
    obtain ⟨response, hr, rfl⟩ := List.mem_map.mp hv
    exact e.embeddable_responses response hr schema hs

end Endpoint

theorem mem_publishedItem {tags : Path.Tagging} {placed : List (Placed σ)} {path : String}
    {entry : String × Json} (h : entry ∈ publishedItem tags placed path) :
    ∃ p ∈ placed, entry.2 = p.endpoint.operation tags p.security := by
  obtain ⟨method, _, hw⟩ := List.mem_filterMap.mp h
  obtain ⟨p, hp, rfl⟩ := Option.map_eq_some_iff.mp hw
  exact ⟨p, mem_of_winner hp, rfl⟩

namespace Outline

theorem embeddable_definedSchemas (o : Outline σ) :
    ∀ schema ∈ o.render.definedSchemas, Embeddable σ schema := by
  intro schema hm
  rw [Json.definedSchemas, Json.under, get?_components_render] at hm
  obtain ⟨value, hvalue, hm⟩ := List.mem_flatMap.mp hm
  obtain ⟨components, rfl, -, -, hschemas⟩ := components_eq_some (Option.mem_toList.mp hvalue)
  obtain ⟨schemas, hs, hm⟩ := List.mem_flatMap.mp hm
  rw [Json.under, Json.get?_object, hschemas, Option.mem_toList,
    Option.ite_none_left_eq_some] at hs
  obtain rfl := Option.some.inj hs.2
  obtain ⟨entry, he, rfl⟩ := List.mem_map.mp hm
  obtain ⟨definition, _, rfl⟩ := List.mem_map.mp he
  exact embeddable_toJsonSchema definition.2

theorem embeddable_embeddedSchemas (o : Outline σ) :
    ∀ schema ∈ o.render.embeddedSchemas, Embeddable σ schema := by
  intro schema hm
  rcases List.mem_append.mp hm with hm | hm
  · exact o.embeddable_definedSchemas schema hm
  rw [Json.under_of_get? (get?_paths_render o), List.flatMap_singleton] at hm
  obtain ⟨item, hi, hm⟩ := List.mem_flatMap.mp hm
  obtain ⟨entry, he, rfl⟩ := List.mem_map.mp hi
  obtain ⟨path, _, rfl⟩ := List.mem_map.mp he
  obtain ⟨operation, ho, hm⟩ := List.mem_flatMap.mp hm
  obtain ⟨published, hp, rfl⟩ := List.mem_map.mp ho
  obtain ⟨p, _, hp⟩ := mem_publishedItem hp
  rw [hp] at hm
  exact p.endpoint.embeddable_operation o.tags p.security schema hm

end Outline

-- Each dialect keeps its rules at every depth of an exported schema, and a document holds no schema
-- that is not in the dialect of OpenAPI.
theorem dialects_kept :
    (∀ (schema : Schema) (part : Json),
      Json.SchemaAt (schema.toJsonSchema .openApi3) part → Json.ObeysOpenApi3 part) ∧
    (∀ (schema : Schema) (part : Json),
      Json.SchemaAt (schema.toJsonSchema .draft7) part → Json.ObeysDraft7 part) ∧
    ∀ (o : Outline Schema) (d : Document) (events : List Event),
      o.assemble = .ok (d, events) → ∀ root ∈ d.value.embeddedSchemas, ∀ part : Json,
        Json.SchemaAt root part → Json.ObeysOpenApi3 part := by
  refine ⟨Schema.sound_toJsonSchema .openApi3, Schema.sound_toJsonSchema .draft7, ?_⟩
  intro o d events h root hroot
  obtain ⟨-, rfl, -⟩ := (Outline.assemble_eq_ok_iff o d events).mp h
  rcases o.embeddable_embeddedSchemas root hroot with rfl | ⟨source, rfl⟩
  · exact Schema.sound_toJsonSchema .openApi3 .string
  · exact Schema.sound_toJsonSchema .openApi3 source

-- Its properties have the names of keywords.
def pricedItem : Schema :=
  .object [
    ("const", .wrapped .nullable (.leaf (.number { minimum := some ⟨.zero, true⟩ }) none) none),
    ("nullable", .leaf (.literal .null) none)] .strict none

def pricedOutline : Outline Schema where
  info := usersInfo
  definitions := [("Item", pricedItem)]
  groups := [⟨[⟨.get, "/items/:id", "getItem", none, [], pricedItem, [], none⟩], none⟩]

def openApi3Price : Json :=
  .object [("type", .string "number"), ("exclusiveMinimum", .bool true),
    ("minimum", .number .zero), ("nullable", .bool true)]

def draft7Price : Json :=
  .object [("type", .array [.string "number", .string "null"]),
    ("exclusiveMinimum", .number .zero)]

theorem dialects_kept_priced :
    Json.ObeysOpenApi3 openApi3Price ∧ Json.ObeysDraft7 draft7Price ∧
    ∃ d events, pricedOutline.assemble = .ok (d, events) ∧
      pricedItem.toJsonSchema .openApi3 ∈ d.value.embeddedSchemas ∧
      undeclaredSchema ∈ d.value.embeddedSchemas ∧ Json.ObeysOpenApi3 undeclaredSchema := by
  have hopen : Json.SchemaAt (pricedItem.toJsonSchema .openApi3) openApi3Price :=
    .inside (.head _) (.here _)
  have hdraft : Json.SchemaAt (pricedItem.toJsonSchema .draft7) draft7Price :=
    .inside (.head _) (.here _)
  have hassemble : pricedOutline.assemble = .ok (⟨pricedOutline.render⟩, _) :=
    Outline.assemble_of_valid ((Outline.fault?_eq_none_iff _).mp (by decide))
  have hembedded : pricedOutline.render.embeddedSchemas =
      [pricedItem.toJsonSchema .openApi3, undeclaredSchema, pricedItem.toJsonSchema .openApi3] := by
    with_unfolding_all rfl
  have hundeclared : undeclaredSchema ∈ pricedOutline.render.embeddedSchemas := by
    rw [hembedded]
    exact .tail _ (.head _)
  refine ⟨dialects_kept.1 pricedItem _ hopen, dialects_kept.2.1 pricedItem _ hdraft, _, _,
    hassemble, ?_, hundeclared,
    dialects_kept.2.2 pricedOutline _ _ hassemble _ hundeclared _ (.here _)⟩
  rw [hembedded]
  exact .head _

end ApiDescription
