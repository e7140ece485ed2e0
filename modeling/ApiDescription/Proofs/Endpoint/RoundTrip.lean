import ApiDescription.Endpoint.Reading
import ApiDescription.Proofs.Schema.RoundTrip

namespace ApiDescription

variable {σ : Type} {schema : SchemaReader σ} {render : σ → Json}

theorem ErrorStatus.ofNode_toJson (status : ErrorStatus) :
    ofNode status.toJson.node = .ok status := by
  cases status with
  | code value =>
    have h := value.toNat_lt
    simp only [toJson, Json.node, Number.ofUInt16, ofNode]
    rw [if_pos ⟨by omega, by omega⟩, Int.toNat_natCast, UInt16.ofNat_toNat]
  | otherwise => rfl

theorem ErrorStatus.read_toJson (medium : Medium) (status : ErrorStatus) :
    read medium status.toJson.node = .ok status := by
  rw [read, Json.buffer_node]
  exact ofNode_toJson status

theorem Parameter.read_toJson {medium : Medium} {p : Parameter σ}
    (h : schema medium (render p.schema).node = .ok p.schema) :
    read schema medium (p.toJson render).node = .ok p := by
  have hcarrier := (Node.inverts_keyword Carrier.get?_names medium).read p.carrier
  have hfills : Fills (layout schema medium).fields [
      Json.field "name" (.string p.name), Json.field "type" (.string p.carrier.text),
      Json.field? "description" p.description .string, Json.field "schema" (render p.schema)]
      {} ⟨some p.name, some p.carrier, p.description, some p.schema⟩ := by
    apply Fills.required "name" (x := p.name) rfl
    apply Fills.required "type" hcarrier
    apply Fills.optional "description" p.description rfl Node.inverts_string
    apply Fills.required "schema" h
    exact .nil _
  have hnames : ((layout schema medium).fields.map Field.name).Nodup := by
    show ["name", "type", "description", "schema"].Nodup
    decide
  have hread : (layout schema medium).read medium {} (p.toJson render).node = .ok _ :=
    Record.read_of_fills hnames medium hfills
  rw [read, hread]
  rfl

theorem ErrorResponse.read_toJson {medium : Medium} {e : ErrorResponse σ}
    (h : schema medium (render e.schema).node = .ok e.schema) :
    read schema medium (e.toJson render).node = .ok e := by
  have hfills : Fills (layout schema medium).fields [
      Json.field "status" e.status.toJson, Json.field? "description" e.description .string,
      Json.field "schema" (render e.schema)]
      {} ⟨some e.status, e.description, some e.schema⟩ := by
    apply Fills.required "status" (e.status.read_toJson medium)
    apply Fills.optional "description" e.description rfl Node.inverts_string
    apply Fills.required "schema" h
    exact .nil _
  have hnames : ((layout schema medium).fields.map Field.name).Nodup := by
    show ["status", "description", "schema"].Nodup
    decide
  have hread : (layout schema medium).read medium {} (e.toJson render).node = .ok _ :=
    Record.read_of_fills hnames medium hfills
  rw [read, hread]
  rfl

namespace Endpoint

-- All schemas of an endpoint.
def schemas (e : Endpoint σ) : List σ :=
  e.parameters.map Parameter.schema ++ e.response :: e.errors.map ErrorResponse.schema

theorem read_toJson {medium : Medium} {e : Endpoint σ}
    (h : ∀ s ∈ e.schemas, schema medium (render s).node = .ok s) :
    read schema medium (e.toJson render).node = .ok e := by
  have hmethod := (Node.inverts_keyword Method.get?_names medium).read e.method
  have hparameters : Node.asList (Parameter.read schema medium)
      (Json.array (e.parameters.map (Parameter.toJson render))).node = .ok e.parameters :=
    Node.asList_array fun p hp => Parameter.read_toJson (h p.schema (by
      simp only [schemas, List.mem_append]
      exact .inl (List.mem_map_of_mem hp)))
  have hresponse : schema medium (render e.response).node = .ok e.response :=
    h e.response (by simp [schemas])
  have herrors : Node.asList (ErrorResponse.read schema medium)
      (Json.array (e.errors.map (ErrorResponse.toJson render))).node = .ok e.errors :=
    Node.asList_array fun error he => ErrorResponse.read_toJson (h error.schema (by
      simp only [schemas, List.mem_append, List.mem_cons]
      exact .inr (.inr (List.mem_map_of_mem he))))
  have hfills : Fills (layout schema medium).fields [
      Json.field "method" (.string e.method.text), Json.field "path" (.string e.path),
      Json.field "alias" (.string e.operationId), Json.field? "description" e.description .string,
      Json.field "parameters" (.array (e.parameters.map (Parameter.toJson render))),
      Json.field "response" (render e.response),
      Json.field "errors" (.array (e.errors.map (ErrorResponse.toJson render))),
      Json.field? "status" e.status fun status => .number (.ofUInt16 status)]
      {} ⟨some e.method, some e.path, some e.operationId, e.description, e.parameters,
        some e.response, e.errors, e.status⟩ := by
    apply Fills.required "method" hmethod
    apply Fills.required "path" (x := e.path) rfl
    apply Fills.required "alias" (x := e.operationId) rfl
    apply Fills.optional "description" e.description rfl Node.inverts_string
    apply Fills.defaulted "parameters" hparameters
    apply Fills.required "response" hresponse
    apply Fills.defaulted "errors" herrors
    apply Fills.optional "status" e.status rfl Node.inverts_code
    exact .nil _
  have hnames : ((layout schema medium).fields.map Field.name).Nodup := by
    show ["method", "path", "alias", "description", "parameters", "response", "errors",
      "status"].Nodup
    decide
  have hread : (layout schema medium).read medium {} (e.toJson render).node = .ok _ :=
    Record.read_of_fills hnames medium hfills
  rw [read, hread]
  rfl

end Endpoint

-- What is written as a definition is read back as it was, the order of properties, parameters and
-- errors included.
theorem definitions_read_back :
    (∀ e : Endpoint Schema, (∀ s ∈ e.schemas, s.wellFormed = true) →
      Endpoint.ofJson (e.toJson Schema.toJson) = .ok e) ∧
    (∀ s : Schema, s.wellFormed = true → Schema.ofJson s.toJson = .ok s) ∧
    ∀ status : ErrorStatus, ErrorStatus.read .value status.toJson.node = .ok status := by
  refine ⟨?_, fun s hs => Schema.read_toJson .value hs, ErrorStatus.read_toJson .value⟩
  intro e he
  exact Endpoint.read_toJson fun s hs => Schema.read_toJson .value (he s hs)

-- Its properties and its values have the names of fields.
def profileSchema : Schema :=
  .object [
    ("type", .leaf (.literal .null) (some "Never known")),
    ("description", .wrapped (.default (.object [("type", .null), ("inner", .array [.null])]))
      (.union [.string, .recordOf .integer, .enumeration ["b", "a"]] none) none),
    ("properties", .wrapped (.refine none) (.wrapped .nullable (.arrayOf .any) (some "Any")) none)]
    .passthrough (some "A profile")

def profileEndpoint : Endpoint Schema where
  method := .put
  path := "/profiles/:id"
  operationId := "saveProfile"
  parameters := [⟨"id", .path, none, .string⟩, ⟨"profile", .body, some "New", profileSchema⟩]
  response := profileSchema
  errors := [⟨.otherwise, none, .void⟩, ⟨.code 404, some "Unknown", .literal (.string "404")⟩]
  status := some 201

theorem definitions_read_back_profile :
    (∀ s ∈ profileEndpoint.schemas, s.wellFormed = true) ∧ profileSchema.wellFormed = true ∧
    Endpoint.ofJson (profileEndpoint.toJson Schema.toJson) = .ok profileEndpoint ∧
    Schema.ofJson profileSchema.toJson = .ok profileSchema :=
  have hschemas : ∀ s ∈ profileEndpoint.schemas, s.wellFormed = true := by decide
  have hprofile : profileSchema.wellFormed = true := by decide
  ⟨hschemas, hprofile, definitions_read_back.1 profileEndpoint hschemas,
    definitions_read_back.2.1 profileSchema hprofile⟩

end ApiDescription
