import ApiDescription.Endpoint.Written
import ApiDescription.Schema.Reading

namespace ApiDescription

variable {σ : Type}

-- How a schema is read, and from where.
abbrev SchemaReader (σ : Type) := Medium → Node → Except Fault σ

def Method.names : List (String × Method) :=
  [("get", .get), ("post", .post), ("put", .put), ("patch", .patch), ("delete", .delete),
    ("head", .head), ("options", .options)]

theorem Method.get?_names (method : Method) : Entries.get? names method.text = some method := by
  cases method <;> rfl

def Carrier.names : List (String × Carrier) :=
  [("Path", .path), ("Query", .query), ("Header", .header), ("Body", .body)]

theorem Carrier.get?_names (carrier : Carrier) :
    Entries.get? names carrier.text = some carrier := by
  cases carrier <;> rfl

-- A status is a code of 16 bits or the one word for all others.
def ErrorStatus.ofNode : Node → Except Fault ErrorStatus
  | .atom (.number (.integer value _)) =>
    if 0 ≤ value ∧ value < 65536 then .ok (.code (UInt16.ofNat value.toNat)) else .error .noStatus
  | .atom .minusZero => .ok (.code 0)
  | .atom (.string "default") => .ok .otherwise
  | .atom (.string text) => .error (.unknownStatus text)
  | _ => .error .noStatus

def ErrorStatus.read (medium : Medium) (node : Node) : Except Fault ErrorStatus := do
  ErrorStatus.ofNode (← node.buffer medium)

namespace Parameter

structure Draft (σ : Type) where
  name : Option String := none
  carrier : Option Carrier := none
  description : Option String := none
  schema : Option σ := none

def layout (schema : SchemaReader σ) (medium : Medium) : Record (Draft σ) where
  title := "struct ParameterSpec"
  fields := [
    .required "name" Node.asString fun x d => { d with name := some x },
    .required "type" (keyword Carrier.names medium) fun x d => { d with carrier := some x },
    .optional "description" Node.asString fun x d => { d with description := x },
    .required "schema" (schema medium) fun x d => { d with schema := some x }]

def read (schema : SchemaReader σ) (medium : Medium) (node : Node) :
    Except Fault (Parameter σ) := do
  let draft ← (layout schema medium).read medium {} node
  return {
    name := ← demand "name" draft.name
    carrier := ← demand "type" draft.carrier
    description := draft.description
    schema := ← demand "schema" draft.schema }

def parts : Parts := (layout Schema.read .yaml).parts

end Parameter

namespace ErrorResponse

structure Draft (σ : Type) where
  status : Option ErrorStatus := none
  description : Option String := none
  schema : Option σ := none

def layout (schema : SchemaReader σ) (medium : Medium) : Record (Draft σ) where
  title := "struct ErrorSpec"
  fields := [
    .required "status" (ErrorStatus.read medium) fun x d => { d with status := some x },
    .optional "description" Node.asString fun x d => { d with description := x },
    .required "schema" (schema medium) fun x d => { d with schema := some x }]

def read (schema : SchemaReader σ) (medium : Medium) (node : Node) :
    Except Fault (ErrorResponse σ) := do
  let draft ← (layout schema medium).read medium {} node
  return {
    status := ← demand "status" draft.status
    description := draft.description
    schema := ← demand "schema" draft.schema }

def parts : Parts := (layout Schema.read .yaml).parts

end ErrorResponse

namespace Endpoint

structure Draft (σ : Type) where
  method : Option Method := none
  path : Option String := none
  operationId : Option String := none
  description : Option String := none
  parameters : List (Parameter σ) := []
  response : Option σ := none
  errors : List (ErrorResponse σ) := []
  status : Option UInt16 := none

def layout (schema : SchemaReader σ) (medium : Medium) : Record (Draft σ) where
  title := "struct EndpointDefinition"
  fields := [
    .required "method" (keyword Method.names medium) fun x d => { d with method := some x },
    .required "path" Node.asString fun x d => { d with path := some x },
    .required "alias" Node.asString fun x d => { d with operationId := some x },
    .optional "description" Node.asString fun x d => { d with description := x },
    .defaulted "parameters" (Node.asList (Parameter.read schema medium)) fun x d =>
      { d with parameters := x },
    .required "response" (schema medium) fun x d => { d with response := some x },
    .defaulted "errors" (Node.asList (ErrorResponse.read schema medium)) fun x d =>
      { d with errors := x },
    .optional "status" Node.asUInt16 fun x d => { d with status := x }]

def read (schema : SchemaReader σ) (medium : Medium) (node : Node) :
    Except Fault (Endpoint σ) := do
  let draft ← (layout schema medium).read medium {} node
  return {
    method := ← demand "method" draft.method
    path := ← demand "path" draft.path
    operationId := ← demand "alias" draft.operationId
    description := draft.description
    parameters := draft.parameters
    response := ← demand "response" draft.response
    errors := draft.errors
    status := draft.status }

def parts : Parts :=
  (layout Schema.read .yaml).parts
    [("parameters", .items Parameter.parts), ("errors", .items ErrorResponse.parts)]

def ofJson (value : Json) : Except Fault (Endpoint Schema) := read Schema.read .value value.node

end Endpoint

end ApiDescription
