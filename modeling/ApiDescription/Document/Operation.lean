import ApiDescription.Endpoint.Basic
import ApiDescription.Path.Tags
import ApiDescription.Document.Event

namespace ApiDescription

open Json (field field?)

variable {σ : Type} [SchemaView σ]

-- The scheme that protects an operation, with what it has to grant.
structure Requirement where
  scheme : String
  grants : List String := []
deriving DecidableEq, Repr

def Requirement.toJson (r : Requirement) : Json :=
  .array [.object [(r.scheme, Json.strings r.grants)]]

def jsonContent (schema : σ) : Json :=
  .object [("application/json", .object [("schema", SchemaView.toJsonSchema .openApi3 schema)])]

-- A parameter without a text of its own has the one of its schema.
def Parameter.text (p : Parameter σ) : Option String :=
  p.description.or (SchemaView.description p.schema)

-- One entry of the parameters of an operation.
def parameterEntry (name location : String) (text : Option String) (required : Bool)
    (schema : Json) : Json :=
  Json.present [
    field "name" (.string name),
    field "in" (.string location),
    field? "description" text .string,
    field "required" (.bool required),
    field "schema" schema]

namespace Endpoint

-- The declaration of a placeholder: the first path parameter of that name.
def declarationOf (e : Endpoint σ) (name : String) : Option (Parameter σ) :=
  (e.parametersIn .path).find? fun p => p.name = name

-- A path parameter is always required; without a declaration it is a string.
def placeholderEntry (e : Endpoint σ) (name : String) : Json :=
  match e.declarationOf name with
  | some p =>
    parameterEntry name "path" p.text true (SchemaView.toJsonSchema .openApi3 p.schema)
  | none => parameterEntry name "path" none true (.object [("type", .string "string")])

-- The schema shown for a parameter that may be left out is the one of the values it has if given.
def shownSchema (schema : σ) : σ := (SchemaView.stripOptional schema).getD schema

-- The name of a repeatable query parameter ends in brackets.
def shownName (p : Parameter σ) : String :=
  if p.carrier = .query && SchemaView.isArray p.schema then p.name ++ "[]" else p.name

def declaredEntry (p : Parameter σ) : Option Json :=
  match p.carrier with
  | .query | .header =>
    let required := !SchemaView.isOptional p.schema
    let schema := if required then p.schema else shownSchema p.schema
    some (parameterEntry (shownName p) (p.carrier.location.getD "query") p.text required
      (SchemaView.toJsonSchema .openApi3 schema))
  | _ => none

-- One entry for each placeholder, then the query and header parameters as they are declared.
def parameterEntries (e : Endpoint σ) (t : Path.Template) : List Json :=
  t.placeholders.map e.placeholderEntry ++ e.parameters.filterMap declaredEntry

def parameterEvents (e : Endpoint σ) (t : Path.Template) : List Event :=
  let undeclared := t.placeholders.filter fun name => (e.declarationOf name).isNone
  let unmatched := (e.parametersIn .path).filter fun p => !t.placeholders.contains p.name
  undeclared.map (Event.undeclaredParameter e.operationId) ++
    unmatched.map fun p => Event.unmatchedParameter e.operationId p.name e.path

def requestBody (e : Endpoint σ) : Option Json :=
  e.body.map fun p =>
    Json.present [
      field? "description" p.text .string,
      field "content" (jsonContent p.schema)]

def bodyEvents (e : Endpoint σ) : List Event :=
  let ignored := (e.parametersIn .body).length - 1
  if ignored = 0 then [] else [.surplusBodies e.operationId ignored]

def responseEntry (text : String) (schema : σ) : Json :=
  .object [("description", .string text), ("content", jsonContent schema)]

-- The success response and the declared errors by their status. A later response with the same
-- status takes the place of an earlier one.
def responses (e : Endpoint σ) : Entries Json :=
  Entries.extend [(toString e.successStatus.toNat, responseEntry "Success" e.response)]
    (e.errors.map fun error =>
      (error.status.key, responseEntry (error.description.getD "Error") error.schema))

-- The operation that an endpoint describes.
def operation (tags : Path.Tagging) (e : Endpoint σ) (security : Option Requirement) : Json :=
  let names := tags e.path
  Json.present [
    field "operationId" (.string e.operationId),
    field? "summary" e.description .string,
    field? "description" e.description .string,
    if names = [] then none else field "tags" (Json.strings names),
    field? "security" security Requirement.toJson,
    field? "requestBody" e.requestBody id,
    field "parameters" (.array (e.parameterEntries (Path.analyze e.path))),
    field "responses" (.object e.responses)]

end Endpoint

end ApiDescription
