import ApiDescription.Schema.Export

namespace ApiDescription

-- What the rendering of a document asks of a schema, whatever its type.
class SchemaView (σ : Type) where
  isOptional : σ → Bool
  stripOptional : σ → Option σ
  isArray : σ → Bool
  description : σ → Option String
  toJsonSchema : Dialect → σ → Json

instance : SchemaView Schema where
  isOptional := Schema.isOptional
  stripOptional := Schema.stripOptional
  isArray := Schema.isArray
  description := Schema.description
  toJsonSchema := Schema.toJsonSchema

inductive Method where
  | get
  | post
  | put
  | patch
  | delete
  | head
  | options
deriving DecidableEq, Repr

def Method.text : Method → String
  | get => "get"
  | post => "post"
  | put => "put"
  | patch => "patch"
  | delete => "delete"
  | head => "head"
  | options => "options"

-- How a parameter travels.
inductive Carrier where
  | path
  | query
  | header
  | body
deriving DecidableEq, Repr

def Carrier.text : Carrier → String
  | path => "Path"
  | query => "Query"
  | header => "Header"
  | body => "Body"

-- Where a document puts a parameter; a body is none of its parameters.
def Carrier.location : Carrier → Option String
  | path => some "path"
  | query => some "query"
  | header => some "header"
  | body => none

structure Parameter (σ : Type) where
  name : String
  carrier : Carrier
  description : Option String := none
  schema : σ
deriving Repr

-- The status that an error is declared for: one code, or all that are not declared.
inductive ErrorStatus where
  | code (value : UInt16)
  | otherwise
deriving DecidableEq, Repr

def ErrorStatus.key : ErrorStatus → String
  | code value => toString value.toNat
  | otherwise => "default"

structure ErrorResponse (σ : Type) where
  status : ErrorStatus
  description : Option String := none
  schema : σ
deriving Repr

structure Endpoint (σ : Type) where
  method : Method
  path : String
  operationId : String
  description : Option String := none
  parameters : List (Parameter σ) := []
  response : σ
  errors : List (ErrorResponse σ) := []
  status : Option UInt16 := none
deriving Repr

namespace Endpoint

variable {σ : Type}

def successStatus (e : Endpoint σ) : UInt16 := e.status.getD 200

def parametersIn (carrier : Carrier) (e : Endpoint σ) : List (Parameter σ) :=
  e.parameters.filter fun p => p.carrier = carrier

-- The first declared body is the body.
def body (e : Endpoint σ) : Option (Parameter σ) := (e.parametersIn .body).head?

end Endpoint

end ApiDescription
