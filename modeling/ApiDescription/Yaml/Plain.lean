import ApiDescription.Decimal.Literal
import ApiDescription.Reading.Node

namespace ApiDescription.Yaml

-- What an unquoted text is by itself.

def isNullWord (text : List Char) : Bool :=
  [""  , "~", "null", "Null", "NULL"].contains (String.ofList text)

def boolWord? (text : List Char) : Option Bool :=
  if ["true", "True", "TRUE"].contains (String.ofList text) then some true
  else if ["false", "False", "FALSE"].contains (String.ofList text) then some false
  else none

def dropSign : List Char → List Char
  | '-' :: rest | '+' :: rest => rest
  | text => text

-- Digits that begin with a needless zero are a text.
def isPaddedDigits (text : List Char) : Bool :=
  match dropSign text with
  | '0' :: c :: rest => (c :: rest).all isDigit
  | _ => false

def isDigitOf (base : Nat) (c : Char) : Bool :=
  if isDigit c then c.toNat - '0'.toNat < base
  else 10 < base && (('a' ≤ c && c ≤ 'f') || ('A' ≤ c && c ≤ 'F'))

def natural? (base : Nat) (ds : List Char) : Option Nat :=
  if ds ≠ [] ∧ ds.all (isDigitOf base) then some (digitsValue base ds) else none

def magnitude? : List Char → Option Nat
  | '0' :: 'x' :: ds => natural? 16 ds
  | '0' :: 'o' :: ds => natural? 8 ds
  | '0' :: 'b' :: ds => natural? 2 ds
  | ds => if isPaddedDigits ds then none else natural? 10 ds

-- An integer of any size, in base 10, 16, 8 or 2.
def integer? : List Char → Option Int
  | '-' :: rest => (fun n : Nat => -(n : Int)) <$> magnitude? rest
  | '+' :: rest => Int.ofNat <$> magnitude? rest
  | rest => Int.ofNat <$> magnitude? rest

-- An integer that a document can hold. A zero tells whether it has a minus sign.
def integerAtom? (text : List Char) : Option Atom :=
  match integer? text, text with
  | some 0, '-' :: _ => some .minusZero
  | some value, _ => .number <$> Number.ofInt? value
  | none, _ => none

-- Integers of at most 128 bits are not taken for anything else, though a document cannot hold them.
def isOverlong (value : Int) : Bool :=
  -170141183460469231731687303715884105728 ≤ value &&
    value < 340282366920938463463374607431768211456

-- An integer that is written without a minus sign.
def unsigned? : List Char → Option Nat
  | '-' :: _ => none
  | '+' :: rest => magnitude? rest
  | rest => magnitude? rest

def isInfinity (text : List Char) : Bool :=
  [".inf", ".Inf", ".INF"].contains (String.ofList (dropSign text))

def isUndefined (text : List Char) : Bool :=
  [".nan", ".NaN", ".NAN"].contains (String.ofList text)

-- A number with a point or an exponent. One beyond all doubles is a text.
def double? (text : List Char) : Option Atom :=
  if isInfinity text || isUndefined text then some .notFinite
  else (fun d => .number (.double d)) <$> (Decimal.ofText? text).bind Double.ofDecimal?

-- The value of an unquoted text; none for an integer that is too long.
def plainValue (text : List Char) : Option Atom :=
  if isNullWord text then some .null
  else match boolWord? text with
    | some value => some (.bool value)
    | none =>
      let other : Atom :=
        if isPaddedDigits text then .string (String.ofList text)
        else (double? text).getD (.string (String.ofList text))
      match integer? text with
      | none => some other
      | some value =>
        if isOverlong value && (Number.ofInt? value).isNone then none
        else some ((integerAtom? text).getD other)

-- Whether an unquoted text is read as itself.
def readsAsText (text : List Char) : Bool :=
  match plainValue text with
  | some (.string _) => !isPaddedDigits text
  | _ => false

end ApiDescription.Yaml
