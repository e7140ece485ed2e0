import ApiDescription.Document.Info
import ApiDescription.Document.Operation
import ApiDescription.Document.Security
import ApiDescription.Document.Server
import ApiDescription.Text.Blank

namespace ApiDescription

open Json (field field?)

variable {σ : Type}

-- Endpoints with the same protection.
structure Group (σ : Type) where
  endpoints : List (Endpoint σ)
  security : Option Requirement := none

-- All that goes into a document.
structure Outline (σ : Type) where
  info : Info
  servers : List Server := []
  schemes : Entries SecurityScheme := []
  definitions : Entries σ := []
  security : Option Requirement := none
  groups : List (Group σ) := []
  tags : Path.Tagging := Path.defaultTags

inductive OutlineError where
  | blankTitle
  | blankVersion
  | unknownScheme (name : String)
deriving DecidableEq, Repr

def OutlineError.message : OutlineError → String
  | blankTitle => "Invalid info object: title must not be empty"
  | blankVersion => "Invalid info object: version must not be empty"
  | unknownScheme name => "Unknown security scheme: '" ++ name ++ "'"

-- A finished document.
structure Document where
  value : Json

def Document.operation (d : Document) (path : String) (method : Method) : Option Json := do
  let paths ← d.value.get? "paths"
  let item ← paths.get? path
  item.get? method.text

-- An endpoint with the protection of its group.
structure Placed (σ : Type) where
  endpoint : Endpoint σ
  security : Option Requirement

def Placed.key (p : Placed σ) : String := (Path.analyze p.endpoint.path).templated

namespace Outline

-- The requirements in the order in which their schemes are looked up.
def requirements (o : Outline σ) : List Requirement :=
  o.groups.filterMap Group.security ++ o.security.toList

def unknownScheme? (o : Outline σ) : Option String :=
  (o.requirements.find? fun r => !o.schemes.contains r.scheme).map Requirement.scheme

-- The first thing that keeps an outline from being a document.
def fault? (o : Outline σ) : Option OutlineError :=
  if Text.isBlank o.info.title then some .blankTitle
  else if Text.isBlank o.info.version then some .blankVersion
  else o.unknownScheme?.map .unknownScheme

-- The endpoints in the order of their groups and of their declaration.
def placed (o : Outline σ) : List (Placed σ) :=
  o.groups.flatMap fun group => group.endpoints.map fun e => ⟨e, group.security⟩

end Outline

variable [SchemaView σ]

-- The operations so far: paths, and under each path its methods.
abbrev Paths := Entries (Entries Json)

-- An operation goes to the others of its path; one with the same path and method is replaced.
def addOperation (tags : Path.Tagging) (paths : Paths) (p : Placed σ) : Paths :=
  let item := (Entries.get? paths p.key).getD []
  Entries.insert paths p.key
    (Entries.insert item p.endpoint.method.text (p.endpoint.operation tags p.security))

def operations (tags : Path.Tagging) (placed : List (Placed σ)) : Paths :=
  placed.foldl (addOperation tags) []

-- Whether one of the endpoints already has the path and method.
def isTaken (earlier : List (Placed σ)) (p : Placed σ) : Bool :=
  earlier.any fun q => q.key = p.key && q.endpoint.method = p.endpoint.method

-- What is told about an endpoint that comes after some others.
def placingEvents (earlier : List (Placed σ)) (p : Placed σ) : List Event :=
  let e := p.endpoint
  (if earlier.any fun q => q.endpoint.operationId = e.operationId
    then [.repeatedId e.operationId] else [])
  ++ e.bodyEvents
  ++ e.parameterEvents (Path.analyze e.path)
  ++ (if isTaken earlier p then [.overwritten p.key e.method.text e.operationId] else [])
  ++ [.assembled p.key e.method.text e.operationId]

def eventsAfter (earlier : List (Placed σ)) : List (Placed σ) → List Event
  | [] => []
  | p :: rest => placingEvents earlier p ++ eventsAfter (earlier ++ [p]) rest

namespace Outline

def components (o : Outline σ) : Option Json :=
  let schemes := if o.schemes = [] then none
    else field "securitySchemes" (.object (o.schemes.mapValues SecurityScheme.toJson))
  let schemas := if o.definitions.isEmpty then none
    else field "schemas" (.object (o.definitions.mapValues (SchemaView.toJsonSchema .openApi3)))
  if schemes.isNone && schemas.isNone then none else some (Json.present [schemes, schemas])

def render (o : Outline σ) : Json :=
  Json.present [
    field "openapi" (.string "3.0.0"),
    field "info" o.info.toJson,
    if o.servers = [] then none else field "servers" (.array (o.servers.map Server.toJson)),
    field? "security" o.security Requirement.toJson,
    field? "components" o.components id,
    field "paths" (.object (Entries.mapValues .object (operations o.tags o.placed)))]

-- The document of an outline and what there was to tell while it was made; or what is wrong.
def assemble (o : Outline σ) : Except OutlineError (Document × List Event) :=
  match o.fault? with
  | some error => .error error
  | none => .ok (⟨o.render⟩, eventsAfter [] o.placed)

end Outline

end ApiDescription
