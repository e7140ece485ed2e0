import ApiDescription.Endpoint.Basic
import ApiDescription.Schema.Written

namespace ApiDescription

open Json (field field?)

variable {σ : Type}

def ErrorStatus.toJson : ErrorStatus → Json
  | code value => .number (.ofUInt16 value)
  | otherwise => .string "default"

def Parameter.toJson (schemaJson : σ → Json) (p : Parameter σ) : Json :=
  Json.present [
    field "name" (.string p.name),
    field "type" (.string p.carrier.text),
    field? "description" p.description .string,
    field "schema" (schemaJson p.schema)]

def ErrorResponse.toJson (schemaJson : σ → Json) (e : ErrorResponse σ) : Json :=
  Json.present [
    field "status" e.status.toJson,
    field? "description" e.description .string,
    field "schema" (schemaJson e.schema)]

-- An endpoint as it stands in a definition.
def Endpoint.toJson (schemaJson : σ → Json) (e : Endpoint σ) : Json :=
  Json.present [
    field "method" (.string e.method.text),
    field "path" (.string e.path),
    field "alias" (.string e.operationId),
    field? "description" e.description .string,
    field "parameters" (.array (e.parameters.map (Parameter.toJson schemaJson))),
    field "response" (schemaJson e.response),
    field "errors" (.array (e.errors.map (ErrorResponse.toJson schemaJson))),
    field? "status" e.status fun status => .number (.ofUInt16 status)]

end ApiDescription
