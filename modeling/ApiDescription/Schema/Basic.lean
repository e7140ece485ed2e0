import ApiDescription.Json.Value

namespace ApiDescription

inductive StringFormat where
  | email
  | uuid
  | uri
  | dateTime
deriving DecidableEq, Repr

structure StringLimits where
  format : Option StringFormat := none
  minLength : Option UInt64 := none
  maxLength : Option UInt64 := none
  pattern : Option String := none
deriving DecidableEq, Repr

-- One end of a range of numbers.
structure Bound where
  value : Number
  exclusive : Bool := false
deriving DecidableEq, Repr

structure NumberLimits where
  integer : Bool := false
  minimum : Option Bound := none
  maximum : Option Bound := none
  multipleOf : Option Number := none
deriving DecidableEq, Repr

structure ArrayLimits where
  minItems : Option UInt64 := none
  maxItems : Option UInt64 := none
deriving DecidableEq, Repr

-- What becomes of the keys that an object does not list.
inductive UnknownKeys where
  | strip
  | strict
  | passthrough
deriving DecidableEq, Repr

-- The kinds without an inner schema.
inductive Leaf where
  | string (limits : StringLimits)
  | number (limits : NumberLimits)
  | boolean
  | null
  | literal (value : Json)
  | enumeration (values : List String)
  -- No value at all.
  | void
  | any
deriving Repr

-- What can be put around a schema without changing what kind of values it describes.
inductive Wrapper where
  -- The value may be absent.
  | optional
  -- The value may be null.
  | nullable
  -- An absent value is replaced.
  | default (value : Json)
  -- The value is checked once more, in a way that no exported schema can express.
  | refine (message : Option String)
deriving Repr

-- The description of a set of values. Every node can have a text for people.
inductive Schema where
  | leaf (kind : Leaf) (description : Option String)
  | array (items : Schema) (limits : ArrayLimits) (description : Option String)
  | object (properties : List (String × Schema)) (unknownKeys : UnknownKeys)
      (description : Option String)
  | record (values : Schema) (description : Option String)
  | union (options : List Schema) (description : Option String)
  | wrapped (wrapper : Wrapper) (inner : Schema) (description : Option String)
deriving Repr

namespace Schema

def string : Schema := leaf (.string {}) none
def number : Schema := leaf (.number {}) none
def integer : Schema := leaf (.number { integer := true }) none
def boolean : Schema := leaf .boolean none
def null : Schema := leaf .null none
def literal (value : Json) : Schema := leaf (.literal value) none
def enumeration (values : List String) : Schema := leaf (.enumeration values) none
def void : Schema := leaf .void none
def any : Schema := leaf .any none
def arrayOf (items : Schema) : Schema := array items {} none
def recordOf (values : Schema) : Schema := record values none
def anyOf (options : List Schema) : Schema := union options none

-- A name that comes again keeps its first place and has its last schema.
def objectOf (properties : List (String × Schema)) : Schema :=
  object (Entries.ofList properties) .strip none

def description : Schema → Option String
  | leaf _ text | array _ _ text | object _ _ text | record _ text | union _ text
  | wrapped _ _ text => text

def describe (text : String) : Schema → Schema
  | leaf kind _ => leaf kind (some text)
  | array items limits _ => array items limits (some text)
  | object properties unknownKeys _ => object properties unknownKeys (some text)
  | record values _ => record values (some text)
  | union options _ => union options (some text)
  | wrapped wrapper inner _ => wrapped wrapper inner (some text)

-- A wrapper takes over the description, so that it is still seen from outside.
def wrap (wrapper : Wrapper) (inner : Schema) : Schema := wrapped wrapper inner inner.description

def optional (inner : Schema) : Schema := wrap .optional inner
def nullable (inner : Schema) : Schema := wrap .nullable inner
def withDefault (value : Json) (inner : Schema) : Schema := wrap (.default value) inner
def refine (message : String) (inner : Schema) : Schema := wrap (.refine (some message)) inner

-- The node under all wrappers.
def innermost : Schema → Schema
  | wrapped _ inner _ => inner.innermost
  | bare => bare

def mapInnermost (f : Schema → Schema) : Schema → Schema
  | wrapped wrapper inner text => wrapped wrapper (mapInnermost f inner) text
  | bare => f bare

def isArray : Schema → Bool
  | array .. => true
  | wrapped _ inner _ => inner.isArray
  | _ => false

mutual

-- Whether the value may be absent.
def isOptional : Schema → Bool
  | leaf .void _ | leaf .any _ => true
  | wrapped .optional _ _ | wrapped (.default _) _ _ => true
  | wrapped .nullable inner _ | wrapped (.refine _) inner _ => isOptional inner
  | union options _ => anyOptional options
  | _ => false

def anyOptional : List Schema → Bool
  | [] => false
  | option :: rest => isOptional option || anyOptional rest

end

-- Takes away the outermost layer of optionality, also from under a default or a nullable layer.
-- A schema that is optional in another way has no such layer.
def stripOptional : Schema → Option Schema
  | wrapped .optional inner _ => some inner
  | wrapped (.default value) inner text =>
    inner.stripOptional.map fun bare => wrapped (.default value) bare text
  | wrapped .nullable inner text =>
    inner.stripOptional.map fun bare => wrapped .nullable bare text
  | _ => none

end Schema

end ApiDescription
