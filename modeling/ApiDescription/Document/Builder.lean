import ApiDescription.Document.Assembly

namespace ApiDescription

variable {σ : Type}

-- One contribution to a document.
inductive Call (σ : Type) where
  | scheme (name : String) (value : SecurityScheme)
  | group (value : Group σ)
  | security (value : Requirement)
  | server (value : Server)
  | definition (name : String) (schema : σ)
  | tags (value : Path.Tagging)

namespace Outline

-- Schemes and definitions are kept by name, groups and servers in their order, and of the rest the
-- last one counts.
def add (o : Outline σ) : Call σ → Outline σ
  | .scheme name value => { o with schemes := o.schemes.insert name value }
  | .group value => { o with groups := o.groups ++ [value] }
  | .security value => { o with security := some value }
  | .server value => { o with servers := o.servers ++ [value] }
  | .definition name schema => { o with definitions := o.definitions.insert name schema }
  | .tags value => { o with tags := value }

def ofCalls (info : Info) (calls : List (Call σ)) : Outline σ := calls.foldl add { info }

end Outline

def build [SchemaView σ] (info : Info) (calls : List (Call σ)) :
    Except OutlineError (Document × List Event) :=
  (Outline.ofCalls info calls).assemble

-- How one list of endpoints becomes a document.
structure Conversion where
  info : Option Info := none
  servers : List Server := []
  -- Protects every endpoint.
  scheme : Option SecurityScheme := none
  tags : Option Path.Tagging := none

-- The name under which the scheme of a conversion is known.
def soleScheme : String := "auth"

def Conversion.outline (c : Conversion) (endpoints : List (Endpoint σ)) : Outline σ where
  info := c.info.getD .placeholder
  servers := c.servers
  schemes := (c.scheme.map fun scheme => (soleScheme, scheme)).toList
  groups := [⟨endpoints, c.scheme.map fun _ => { scheme := soleScheme }⟩]
  tags := c.tags.getD Path.defaultTags

def convert [SchemaView σ] (endpoints : List (Endpoint σ)) (c : Conversion) :
    Except OutlineError (Document × List Event) :=
  (c.outline endpoints).assemble

end ApiDescription
