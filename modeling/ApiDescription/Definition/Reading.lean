import ApiDescription.Definition.Basic
import ApiDescription.Endpoint.Reading
import ApiDescription.Files.Name
import ApiDescription.Json.Reader
import ApiDescription.Yaml.Reader

namespace ApiDescription

namespace Requirement

structure Draft where
  scheme : Option String := none
  grants : List String := []

def layout : Record Draft where
  title := "struct SecurityRequirement"
  fields := [
    .required "scheme" Node.asString fun x d => { d with scheme := some x },
    .defaulted "requirements" (Node.asList Node.asString) fun x d => { d with grants := x }]

def read (medium : Medium) (node : Node) : Except Fault Requirement := do
  let draft ← layout.read medium {} node
  return { scheme := ← demand "scheme" draft.scheme, grants := draft.grants }

def parts : Parts := layout.parts

end Requirement

namespace Group

structure Draft where
  scheme : Option String := none
  grants : List String := []
  endpoints : Option (List (Endpoint Schema)) := none

def layout (medium : Medium) : Record Draft where
  title := "struct ApiGroupConfig"
  fields := [
    .optional "scheme" Node.asString fun x d => { d with scheme := x },
    .defaulted "requirements" (Node.asList Node.asString) fun x d => { d with grants := x },
    .required "endpoints" (Node.asList (Endpoint.read Schema.read medium)) fun x d =>
      { d with endpoints := some x }]

-- Without a scheme there is nothing to require.
def read (medium : Medium) (node : Node) : Except Fault (Group Schema) := do
  let draft ← (layout medium).read medium {} node
  return {
    endpoints := ← demand "endpoints" draft.endpoints
    security := draft.scheme.map fun scheme => { scheme, grants := draft.grants } }

def parts : Parts := (layout .yaml).parts [("endpoints", .items Endpoint.parts)]

end Group

-- Why a text is no definition.
inductive DefinitionError where
  | unreadable
  | unfit (fault : Fault)
deriving DecidableEq, Repr

def DefinitionError.message : DefinitionError → String
  | unreadable => "Invalid definition file: " ++ Fault.malformed.message
  | unfit fault => "Invalid definition file: " ++ fault.message

namespace Definition

structure Draft where
  info : Option Info := none
  servers : List Server := []
  schemes : Entries SecurityScheme := []
  schemas : Entries Schema := []
  security : Option Requirement := none
  groups : Option (List (Group Schema)) := none

def layout (medium : Medium) : Record Draft where
  title := "struct DefinitionFile"
  fields := [
    .optional "info" (Info.read medium) fun x d => { d with info := x },
    .defaulted "servers" (Node.asList (Server.read medium)) fun x d => { d with servers := x },
    .defaulted "securitySchemes" (Node.asMap (SecurityScheme.read medium)) fun x d =>
      { d with schemes := x },
    .defaulted "definitions" (Node.asMap (Schema.read medium)) fun x d => { d with schemas := x },
    .optional "security" (Requirement.read medium) fun x d => { d with security := x },
    .required "apis" (Node.asList (Group.read medium)) fun x d => { d with groups := some x }]

def read (medium : Medium) (node : Node) : Except Fault Definition := do
  let draft ← (layout medium).read medium {} node
  return {
    info := draft.info
    servers := draft.servers
    schemes := draft.schemes
    schemas := draft.schemas
    security := draft.security
    groups := ← demand "apis" draft.groups }

-- Schemes and schemas are read whole.
def parts : Parts :=
  (layout .yaml).parts [
    ("info", Info.parts),
    ("servers", .items Server.parts),
    ("security", Requirement.parts),
    ("apis", .items Group.parts)]

-- Whether the extension of the file's name says that it is written as JSON.
def isJsonName (name : String) : Bool :=
  match Files.extension? name with
  | some ending => ending.toList.map Char.toLower = "json".toList
  | none => false

-- A definition is written as JSON or as YAML. What is wrong is told of a text that is JSON.
def parse (name content : String) : Except DefinitionError Definition :=
  if isJsonName name then
    match Json.readTree? content with
    | none => .error .unreadable
    | some tree =>
      match read .json tree with
      | .ok definition => .ok definition
      | .error fault =>
        if fault = .malformed || !tree.sound then .error .unreadable else .error (.unfit fault)
  else
    match (Yaml.readTree? parts content).map (read .yaml) with
    | some (.ok definition) => .ok definition
    | _ => .error .unreadable

end Definition

end ApiDescription
