import ApiDescription.Document.Builder
import ApiDescription.Schema.Export

namespace ApiDescription

-- The description of a whole API.
structure Definition where
  info : Option Info := none
  servers : List Server := []
  schemes : Entries SecurityScheme := []
  schemas : Entries Schema := []
  security : Option Requirement := none
  groups : List (Group Schema)

namespace Definition

def calls (d : Definition) : List (Call Schema) :=
  d.servers.map Call.server
    ++ d.schemes.map (fun (name, scheme) => Call.scheme name scheme)
    ++ d.schemas.map (fun (name, schema) => Call.definition name schema)
    ++ (d.security.map Call.security).toList
    ++ d.groups.map Call.group

-- What is told about the groups before the document is made.
def groupEvents (d : Definition) : List Event :=
  d.groups.map fun g => .addedGroup (g.security.map Requirement.scheme) g.endpoints.length

def document (d : Definition) : Except OutlineError (Document × List Event) :=
  build (d.info.getD .placeholder) d.calls

end Definition

end ApiDescription
