import ApiDescription.Schema.Export

namespace ApiDescription

def UnknownKeys.text : UnknownKeys → String
  | strip => "strip"
  | strict => "strict"
  | passthrough => "passthrough"

def Bound.toJson (bound : Bound) : Json :=
  .object [("value", .number bound.value), ("exclusive", .bool bound.exclusive)]

namespace Schema

open Json (field field?)

def stringFields (limits : StringLimits) : List (Option (String × Json)) := [
  field? "format" limits.format fun format => .string format.text,
  field? "minLength" limits.minLength count,
  field? "maxLength" limits.maxLength count,
  field? "pattern" limits.pattern .string]

def numberFields (limits : NumberLimits) : List (Option (String × Json)) := [
  field "integer" (.bool limits.integer),
  field? "minimum" limits.minimum Bound.toJson,
  field? "maximum" limits.maximum Bound.toJson,
  field? "multipleOf" limits.multipleOf .number]

-- The name of the kind and its fields.
def leafFields : Leaf → String × List (Option (String × Json))
  | .string limits => ("string", stringFields limits)
  | .number limits => ("number", numberFields limits)
  | .boolean => ("boolean", [])
  | .null => ("null", [])
  | .literal value => ("literal", [field "value" value])
  | .enumeration values => ("enum", [field "values" (Json.strings values)])
  | .void => ("void", [])
  | .any => ("any", [])

def wrapperFields (inner : Json) : Wrapper → String × List (Option (String × Json))
  | .optional => ("optional", [field "inner" inner])
  | .nullable => ("nullable", [field "inner" inner])
  | .default value => ("default", [field "inner" inner, field "value" value])
  | .refine message => ("refine", [field "inner" inner, field? "message" message .string])

-- A node as it stands in a definition: its kind, the fields of the kind, its description.
def written (kind : String) (fields : List (Option (String × Json))) (text : Option String) :
    Json :=
  Json.present (field "type" (.string kind) :: fields ++ [field? "description" text .string])

mutual

def toJson : Schema → Json
  | leaf kind text => written (leafFields kind).1 (leafFields kind).2 text
  | array items limits text =>
    written "array" [field "items" (toJson items),
      field? "minItems" limits.minItems count, field? "maxItems" limits.maxItems count] text
  | object properties policy text =>
    written "object" [field "properties" (.object (propertiesToJson properties)),
      field "unknownKeys" (.string policy.text)] text
  | record values text => written "record" [field "values" (toJson values)] text
  | union options text => written "union" [field "options" (.array (optionsToJson options))] text
  | wrapped wrapper inner text =>
    written (wrapperFields (toJson inner) wrapper).1 (wrapperFields (toJson inner) wrapper).2 text

def propertiesToJson : List (String × Schema) → List (String × Json)
  | [] => []
  | (name, schema) :: rest => (name, toJson schema) :: propertiesToJson rest

def optionsToJson : List Schema → List Json
  | [] => []
  | option :: rest => toJson option :: optionsToJson rest

end

end Schema

end ApiDescription
