import ApiDescription.Reading.Record

namespace ApiDescription

open Json (field field?)

-- A variable part of the URL of a server.
structure ServerVariable where
  choices : Option (List String) := none
  default : String
  description : Option String := none
deriving DecidableEq, Repr

structure Server where
  url : String
  description : Option String := none
  substitutions : Entries ServerVariable := []
deriving DecidableEq, Repr

namespace ServerVariable

def toJson (v : ServerVariable) : Json :=
  Json.present [
    field? "enum" v.choices Json.strings,
    field "default" (.string v.default),
    field? "description" v.description .string]

structure Draft where
  choices : Option (List String) := none
  default : Option String := none
  description : Option String := none

def layout : Record Draft where
  title := "struct OpenApiServerVariable"
  fields := [
    .optional "enum" (Node.asList Node.asString) fun x d => { d with choices := x },
    .required "default" Node.asString fun x d => { d with default := some x },
    .optional "description" Node.asString fun x d => { d with description := x }]

def read (medium : Medium) (node : Node) : Except Fault ServerVariable := do
  let draft ← layout.read medium {} node
  return {
    choices := draft.choices
    default := ← demand "default" draft.default
    description := draft.description }

def parts : Parts := layout.parts

end ServerVariable

namespace Server

def toJson (s : Server) : Json :=
  Json.present [
    field "url" (.string s.url),
    field? "description" s.description .string,
    if s.substitutions = [] then none
    else field "variables" (.object (s.substitutions.mapValues ServerVariable.toJson))]

def withVariable (s : Server) (name : String) (v : ServerVariable) : Server :=
  { s with substitutions := s.substitutions.insert name v }

structure Draft where
  url : Option String := none
  description : Option String := none
  substitutions : Entries ServerVariable := []

def layout (medium : Medium) : Record Draft where
  title := "struct OpenApiServer"
  fields := [
    .required "url" Node.asString fun x d => { d with url := some x },
    .optional "description" Node.asString fun x d => { d with description := x },
    .defaulted "variables" (Node.asMap (ServerVariable.read medium)) fun x d =>
      { d with substitutions := x }]

def read (medium : Medium) (node : Node) : Except Fault Server := do
  let draft ← (layout medium).read medium {} node
  return {
    url := ← demand "url" draft.url
    description := draft.description
    substitutions := draft.substitutions }

def parts : Parts := (layout .yaml).parts [("variables", .values ServerVariable.parts)]

def ofJson (value : Json) : Except Fault Server := read .value value.node

end Server

end ApiDescription
