import ApiDescription.Schema.Basic

namespace ApiDescription

-- A constraint. It belongs to one kind of schema and to one field of that kind.
inductive Modifier where
  | format (value : StringFormat)
  | minLength (length : UInt64)
  | maxLength (length : UInt64)
  | pattern (value : String)
  | integer
  | minimum (bound : Bound)
  | maximum (bound : Bound)
  | multipleOf (step : Number)
  | minItems (count : UInt64)
  | maxItems (count : UInt64)
  | unknownKeys (policy : UnknownKeys)
  | without (names : List String)
  | extend (properties : List (String × Schema))

namespace Modifier

def min (value : Number) : Modifier := minimum { value }
def gt (value : Number) : Modifier := minimum { value, exclusive := true }
def max (value : Number) : Modifier := maximum { value }
def lt (value : Number) : Modifier := maximum { value, exclusive := true }
def positive : Modifier := gt .zero
def nonnegative : Modifier := min .zero
def negative : Modifier := lt .zero
def nonpositive : Modifier := max .zero

def onString : Modifier → StringLimits → StringLimits
  | format value, limits => { limits with format := some value }
  | minLength length, limits => { limits with minLength := some length }
  | maxLength length, limits => { limits with maxLength := some length }
  | pattern value, limits => { limits with pattern := some value }
  | _, limits => limits

def onNumber : Modifier → NumberLimits → NumberLimits
  | integer, limits => { limits with integer := true }
  | minimum bound, limits => { limits with minimum := some bound }
  | maximum bound, limits => { limits with maximum := some bound }
  | multipleOf step, limits => { limits with multipleOf := some step }
  | _, limits => limits

def onArray : Modifier → ArrayLimits → ArrayLimits
  | minItems count, limits => { limits with minItems := some count }
  | maxItems count, limits => { limits with maxItems := some count }
  | _, limits => limits

def onProperties : Modifier → Entries Schema → Entries Schema
  | without names, properties => properties.without names
  | extend more, properties => properties.extend more
  | _, properties => properties

def onUnknownKeys : Modifier → UnknownKeys → UnknownKeys
  | unknownKeys policy, _ => policy
  | _, policy => policy

-- The effect on a node without wrappers: none on a node of another kind.
def onNode (m : Modifier) : Schema → Schema
  | .leaf (.string limits) text => .leaf (.string (m.onString limits)) text
  | .leaf (.number limits) text => .leaf (.number (m.onNumber limits)) text
  | .array items limits text => .array items (m.onArray limits) text
  | .object properties policy text =>
    .object (m.onProperties properties) (m.onUnknownKeys policy) text
  | other => other

end Modifier

-- A constraint applies to the innermost node, whatever is around it.
def Schema.modify (m : Modifier) (schema : Schema) : Schema := schema.mapInnermost m.onNode

end ApiDescription
