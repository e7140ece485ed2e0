import ApiDescription.Json.Value

namespace ApiDescription

inductive Level where
  | debug
  | info
  | warning
deriving DecidableEq, Repr

def Level.text : Level → String
  | debug => "DEBUG"
  | info => "INFO"
  | warning => "WARN"

-- What is worth telling about the making of a document.
inductive Event where
  | undeclaredParameter (operationId name : String)
  | unmatchedParameter (operationId name path : String)
  | surplusBodies (operationId : String) (ignored : Nat)
  | repeatedId (operationId : String)
  | overwritten (path method operationId : String)
  | assembled (path method operationId : String)
  | addedGroup (scheme : Option String) (endpoints : Nat)
  | saved (input output : String)
deriving DecidableEq, Repr

namespace Event

def level : Event → Level
  | unmatchedParameter .. | surplusBodies .. | repeatedId .. | overwritten .. => .warning
  | undeclaredParameter .. | assembled .. | addedGroup .. => .debug
  | saved .. => .info

-- Who tells it, as filters name it: the making of a document or of its parameters, the reading of a
-- definition, or the command.
def teller : Event → String
  | repeatedId .. | overwritten .. | assembled .. => "oasgen_core::oas::document"
  | undeclaredParameter .. | unmatchedParameter .. | surplusBodies .. => "oasgen_core::oas::params"
  | addedGroup .. => "oasgen::config"
  | saved .. => "oasgen::generate"

def message : Event → String
  | undeclaredParameter .. => "undeclared path parameter, falling back to string"
  | unmatchedParameter _ _ path =>
    "path parameter has no matching placeholder in '" ++ path ++ "'"
  | surplusBodies .. => "multiple body parameters declared, using the first"
  | repeatedId .. => "duplicate operationId"
  | overwritten .. => "operation overwritten by a later endpoint"
  | assembled .. => "assembled operation"
  | addedGroup .. => "adding api group"
  | saved .. => "wrote OpenAPI document"

def count (n : Nat) : Json := .number (.ofUInt64 (.ofNat n))

-- What the event is about.
def fields : Event → Entries Json
  | undeclaredParameter id name | unmatchedParameter id name _ =>
    [("alias", .string id), ("param", .string name)]
  | surplusBodies id ignored => [("alias", .string id), ("ignored", count ignored)]
  | repeatedId id => [("alias", .string id)]
  | overwritten path method id | assembled path method id =>
    [("path", .string path), ("method", .string method), ("alias", .string id)]
  | addedGroup scheme endpoints =>
    [("scheme", .string (scheme.getD "<public>")), ("endpoints", count endpoints)]
  | saved input output => [("input", .string input), ("output", .string output)]

-- Whether something is said under a name. The message has a name too.
def hasField (event : Event) (name : String) : Bool :=
  name = "message" || event.fields.contains name

end Event

end ApiDescription
