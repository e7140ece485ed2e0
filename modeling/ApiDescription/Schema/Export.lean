import ApiDescription.Schema.Basic

namespace ApiDescription

-- The two ways in which a schema can be written as a JSON object.
inductive Dialect where
  -- The Schema Object of OpenAPI 3.0: exclusive bounds are flags beside the bound, a single value
  -- is an `enum` and null is allowed by `nullable`.
  | openApi3
  | draft7
deriving DecidableEq, Repr

def StringFormat.text : StringFormat → String
  | email => "email"
  | uuid => "uuid"
  | uri => "uri"
  | dateTime => "date-time"

namespace Schema

open Json (field field?)

def count (value : UInt64) : Json := .number (.ofUInt64 value)

def typed (name : String) : Option (String × Json) := field "type" (.string name)

def present (entries : List (Option (String × Json))) : Entries Json := entries.filterMap id

-- A bound as the entry of the bound itself and the entry that excludes its value.
def boundEntries (dialect : Dialect) (name exclusiveName : String) (bound : Option Bound) :
    List (Option (String × Json)) :=
  match bound, dialect with
  | none, _ => []
  | some ⟨value, false⟩, _ => [field name (.number value)]
  | some ⟨value, true⟩, .openApi3 => [field exclusiveName (.bool true), field name (.number value)]
  | some ⟨value, true⟩, .draft7 => [field exclusiveName (.number value)]

def exportString (limits : StringLimits) : Entries Json :=
  present [
    typed "string",
    field? "format" limits.format fun format => .string format.text,
    field? "minLength" limits.minLength count,
    field? "maxLength" limits.maxLength count,
    field? "pattern" limits.pattern .string]

def exportNumber (dialect : Dialect) (limits : NumberLimits) : Entries Json :=
  present ([typed (if limits.integer then "integer" else "number")]
    ++ boundEntries dialect "minimum" "exclusiveMinimum" limits.minimum
    ++ boundEntries dialect "maximum" "exclusiveMaximum" limits.maximum
    ++ [field? "multipleOf" limits.multipleOf .number])

def exportNull : Dialect → Entries Json
  | .openApi3 => [("enum", .array [.string "null"]), ("nullable", .bool true)]
  | .draft7 => [("type", .string "null")]

-- The type of a single value, if a value of that type needs no further description.
def literalType : Json → Option String
  | .string _ => some "string"
  | .number _ => some "number"
  | .bool _ => some "boolean"
  | _ => none

def exportLiteral (dialect : Dialect) : Json → Entries Json
  | .null => exportNull dialect
  | value =>
    present [
      field? "type" (literalType value) .string,
      match dialect with
      | .openApi3 => field "enum" (.array [value])
      | .draft7 => field "const" value]

def exportLeaf (dialect : Dialect) : Leaf → Entries Json
  | .string limits => exportString limits
  | .number limits => exportNumber dialect limits
  | .boolean => [("type", .string "boolean")]
  | .null => exportNull dialect
  | .literal value => exportLiteral dialect value
  | .enumeration values => [("type", .string "string"), ("enum", Json.strings values)]
  | .void | .any => []

def exportArray (items : Entries Json) (limits : ArrayLimits) : Entries Json :=
  present [
    typed "array",
    field "items" (.object items),
    field? "minItems" limits.minItems count,
    field? "maxItems" limits.maxItems count]

def exportObject (properties : Entries Json) (required : List String) (policy : UnknownKeys) :
    Entries Json :=
  present [
    typed "object",
    field "properties" (.object properties),
    if required = [] then none else field "required" (Json.strings required),
    field "additionalProperties" (.bool (policy = .passthrough))]

def nullType : Json := .object [("type", .string "null")]

-- The schema of the same values and null.
def exportNullable (dialect : Dialect) (inner : Entries Json) : Entries Json :=
  match dialect with
  | .openApi3 =>
    if inner.contains "type" || inner.contains "anyOf" then
      Entries.insert inner "nullable" (.bool true)
    else [("anyOf", .array [.object inner]), ("nullable", .bool true)]
  | .draft7 =>
    match Entries.get? inner "type", Entries.get? inner "anyOf" with
    | some (.string name), _ =>
      Entries.insert inner "type" (.array [.string name, .string "null"])
    | _, some (.array members) => Entries.insert inner "anyOf" (.array (members ++ [nullType]))
    | _, _ => [("anyOf", .array [.object inner, nullType])]

def exportWrapped (dialect : Dialect) (inner : Entries Json) : Wrapper → Entries Json
  | .optional | .refine _ => inner
  | .default value => Entries.insert inner "default" value
  | .nullable => exportNullable dialect inner

-- A description replaces the one that an inner node has left.
def exportDescribed (text : Option String) (entries : Entries Json) : Entries Json :=
  match text with
  | none => entries
  | some text => Entries.insert entries "description" (.string text)

def requiredNames (properties : List (String × Schema)) : List String :=
  (properties.filter fun property => !property.2.isOptional).map Prod.fst

mutual

def exportEntries (dialect : Dialect) : Schema → Entries Json
  | leaf kind text => exportDescribed text (exportLeaf dialect kind)
  | array items limits text =>
    exportDescribed text (exportArray (exportEntries dialect items) limits)
  | object properties policy text =>
    exportDescribed text
      (exportObject (exportProperties dialect properties) (requiredNames properties) policy)
  | record values text =>
    exportDescribed text [("type", .string "object"),
      ("additionalProperties", .object (exportEntries dialect values))]
  | union options text =>
    exportDescribed text [("anyOf", .array (exportOptions dialect options))]
  | wrapped wrapper inner text =>
    exportDescribed text (exportWrapped dialect (exportEntries dialect inner) wrapper)

def exportProperties (dialect : Dialect) : List (String × Schema) → Entries Json
  | [] => []
  | (name, schema) :: rest =>
    (name, .object (exportEntries dialect schema)) :: exportProperties dialect rest

def exportOptions (dialect : Dialect) : List Schema → List Json
  | [] => []
  | option :: rest => .object (exportEntries dialect option) :: exportOptions dialect rest

end

def toJsonSchema (dialect : Dialect) (schema : Schema) : Json :=
  .object (exportEntries dialect schema)

end Schema

end ApiDescription
