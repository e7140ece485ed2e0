import ApiDescription.Schema.Written
import ApiDescription.Reading.Record

namespace ApiDescription

def StringFormat.names : List (String × StringFormat) :=
  [("email", .email), ("uuid", .uuid), ("uri", .uri), ("date-time", .dateTime)]

theorem StringFormat.get?_names (format : StringFormat) :
    Entries.get? names format.text = some format := by
  cases format <;> rfl

def UnknownKeys.names : List (String × UnknownKeys) :=
  [("strip", .strip), ("strict", .strict), ("passthrough", .passthrough)]

theorem UnknownKeys.get?_names (policy : UnknownKeys) :
    Entries.get? names policy.text = some policy := by
  cases policy <;> rfl

namespace Schema

inductive Kind where
  | string | number | boolean | null | literal | enumeration | array | object | record | union
  | optional | nullable | default | refine | void | any
deriving DecidableEq, Repr

def Kind.names : List (String × Kind) := [
  ("string", .string), ("number", .number), ("boolean", .boolean), ("null", .null),
  ("literal", .literal), ("enum", .enumeration), ("array", .array), ("object", .object),
  ("record", .record), ("union", .union), ("optional", .optional), ("nullable", .nullable),
  ("default", .default), ("refine", .refine), ("void", .void), ("any", .any)]

def stringRecord : Record StringLimits where
  title := "struct StringType"
  fields := [
    .optional "format" (keyword StringFormat.names .buffered) fun x d => { d with format := x },
    .optional "minLength" Node.asUInt64 fun x d => { d with minLength := x },
    .optional "maxLength" Node.asUInt64 fun x d => { d with maxLength := x },
    .optional "pattern" Node.asString fun x d => { d with pattern := x }]

structure BoundDraft where
  value : Option Number := none
  exclusive : Bool := false

def boundRecord : Record BoundDraft where
  title := "struct Bound"
  fields := [
    .required "value" Node.asNumber fun x d => { d with value := some x },
    .defaulted "exclusive" Node.asBool fun x d => { d with exclusive := x }]

def readBound (node : Node) : Except Fault Bound := do
  let draft ← boundRecord.read .buffered {} node
  return { value := ← demand "value" draft.value, exclusive := draft.exclusive }

def numberRecord : Record NumberLimits where
  title := "struct NumberType"
  fields := [
    .defaulted "integer" Node.asBool fun x d => { d with integer := x },
    .optional "minimum" readBound fun x d => { d with minimum := x },
    .optional "maximum" readBound fun x d => { d with maximum := x },
    .optional "multipleOf" Node.asNumber fun x d => { d with multipleOf := x }]

-- The fields of the kinds that have parts, as far as they are read.
structure Draft where
  inner : Option Schema := none
  value : Option Json := none
  values : Option (List String) := none
  options : Option (List Schema) := none
  message : Option String := none
  arrayLimits : ArrayLimits := {}
  properties : Entries Schema := []
  unknownKeys : UnknownKeys := .strip

-- `child` reads the schemas inside of the node.
def fieldsOf (child : Node → Except Fault Schema) : Kind → List (Field Draft)
  | .literal => [valueField]
  | .enumeration => [.required "values" (Node.asList Node.asString) fun x d =>
      { d with values := some x }]
  | .array => [innerField "items",
      .optional "minItems" Node.asUInt64 fun x d =>
        { d with arrayLimits := { d.arrayLimits with minItems := x } },
      .optional "maxItems" Node.asUInt64 fun x d =>
        { d with arrayLimits := { d.arrayLimits with maxItems := x } }]
  | .object => [
      .defaulted "properties" (Node.asMap child) fun x d => { d with properties := x },
      .defaulted "unknownKeys" (keyword UnknownKeys.names .buffered) fun x d =>
        { d with unknownKeys := x }]
  | .record => [innerField "values"]
  | .union => [.required "options" (Node.asList child) fun x d => { d with options := some x }]
  | .optional | .nullable => [innerField "inner"]
  | .default => [innerField "inner", valueField]
  | .refine => [innerField "inner",
      .optional "message" Node.asString fun x d => { d with message := x }]
  | _ => []
where
  innerField (name : String) : Field Draft :=
    .required name child fun x d => { d with inner := some x }
  valueField : Field Draft :=
    .required "value" Node.asJson fun x d => { d with value := some x }

def kindRecord (child : Node → Except Fault Schema) (kind : Kind) : Record Draft where
  title := "struct TypeKind"
  fields := fieldsOf child kind

-- The node of a kind, from the entries that belong to the kind.
def readKind (child : Node → Except Fault Schema) (kind : Kind) (entries : List (Node × Node))
    (text : Option String) : Except Fault Schema :=
  match kind with
  | .string => do return leaf (.string (← stringRecord.read .buffered {} (.map entries))) text
  | .number => do return leaf (.number (← numberRecord.read .buffered {} (.map entries))) text
  | .boolean => .ok (leaf .boolean text)
  | .null => .ok (leaf .null text)
  | .void => .ok (leaf .void text)
  | .any => .ok (leaf .any text)
  | kind => do
    let draft ← (kindRecord child kind).read .buffered {} (.map entries)
    match kind with
    | .literal => return leaf (.literal (← demand "value" draft.value)) text
    | .enumeration => return leaf (.enumeration (← demand "values" draft.values)) text
    | .array => return array (← demand "items" draft.inner) draft.arrayLimits text
    | .object => return object draft.properties draft.unknownKeys text
    | .record => return record (← demand "values" draft.inner) text
    | .union => return union (← demand "options" draft.options) text
    | .optional => return wrapped .optional (← demand "inner" draft.inner) text
    | .nullable => return wrapped .nullable (← demand "inner" draft.inner) text
    | .default =>
      let inner ← demand "inner" draft.inner
      return wrapped (.default (← demand "value" draft.value)) inner text
    | _ => return wrapped (.refine draft.message) (← demand "inner" draft.inner) text

-- The key of an entry of a node. Where the node itself is buffered a number can be a key too.
def nodeKey (medium : Medium) (key : Node) : Except Fault Node :=
  match medium, key with
  | .buffered, .atom (.number (.integer index h)) =>
    if 0 ≤ index then .ok (.atom (.number (.integer index h))) else .error .malformed
  | _, key => (.atom <| .string ·) <$> key.asString

-- Takes out the description and sets all other entries aside.
def splitDescription (medium : Medium) :
    List (Node × Node) → Option (Option String) →
      Except Fault (Option String × List (Node × Node))
  | [], text => .ok (text.join, [])
  | (key, value) :: rest, text => do
    match ← nodeKey medium key with
    | .atom (.string "description") =>
      if text.isSome then .error (.duplicateField "description")
      else
        let own ← value.asOption Node.asString
        splitDescription medium rest (some own)
    | key =>
      let value ← value.buffer medium
      let (text, others) ← splitDescription medium rest text
      return (text, (key, value) :: others)

-- One node, given how to read the nodes inside of it.
def readNode (child : Node → Except Fault Schema) (medium : Medium) (node : Node) :
    Except Fault Schema := do
  let entries ← node.asEntries (.record "struct TypeSchema")
  let (text, entries) ← splitDescription medium entries none
  let (kind, entries) ← splitTag "type" (variantAt Kind.names) .buffered entries none
  readKind child kind entries text

-- A schema that is nested no deeper than `depth`.
def readWithin : Nat → Medium → Node → Except Fault Schema
  | 0, _, _ => .error .malformed
  | depth + 1, medium, node => readNode (readWithin depth .buffered) medium node

def read (medium : Medium) (node : Node) : Except Fault Schema :=
  readWithin (node.depth + 1) medium node

def ofJson (value : Json) : Except Fault Schema := read .value value.node

end Schema

end ApiDescription
