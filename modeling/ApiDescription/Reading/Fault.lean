import ApiDescription.Json.Number
import ApiDescription.Text.Quoted

namespace ApiDescription

-- What stands in a document at a place where something else was wanted.
inductive Found where
  | null
  | bool (value : Bool)
  | number (value : Number)
  | string (value : String)
  | list
  | map
deriving DecidableEq, Repr

inductive Wanted where
  | string
  | list
  | map
  | boolean
  | number
  | word (bits : Nat)
  | keyword
  | unit
  | variant
  | record (title : String)
deriving DecidableEq, Repr

-- Why a document does not describe what it was read as.
inductive Fault where
  | wrongType (found : Found) (wanted : Wanted)
  | outOfRange (value : Int) (bits : Nat)
  | noVariantAt (index : Nat) (count : Nat)
  | unknownVariant (name : String) (known : List String)
  | notOneKey
  | tooShort (length : Nat) (title : String) (size : Nat)
  | tooLong (length : Nat)
  | surplus (length : Nat) (size : Nat)
  | missingField (name : String)
  | duplicateField (name : String)
  | unknownStatus (text : String)
  | noStatus
  -- The text itself has no reading, whatever was wanted.
  | malformed
deriving DecidableEq, Repr

def Found.message : Found → String
  | null => "null"
  | bool value => "boolean `" ++ toString value ++ "`"
  | number (.integer value _) => "integer `" ++ toString value ++ "`"
  | number (.double value) => "floating point `" ++ value.text ['+'] ++ "`"
  | string value => "string " ++ Text.quoted value
  | list => "sequence"
  | map => "map"

def Wanted.message : Wanted → String
  | string => "a string"
  | list => "a sequence"
  | map => "a map"
  | boolean => "a boolean"
  | number => "a JSON number"
  | word bits => "u" ++ toString bits
  | keyword => "string or map"
  | unit => "unit"
  | variant => "variant identifier"
  | record title => title

namespace Fault

def elements (count : Nat) : String :=
  toString count ++ (if count = 1 then " element" else " elements")

def alternatives (names : List String) : String :=
  let ticked := names.map fun name => "`" ++ name ++ "`"
  match ticked with
  | [] => "there are no variants"
  | [one] => one
  | [one, two] => one ++ " or " ++ two
  | many => "one of " ++ ", ".intercalate many

def message : Fault → String
  | wrongType found wanted =>
    "invalid type: " ++ found.message ++ ", expected " ++ wanted.message
  | outOfRange value bits =>
    "invalid value: integer `" ++ toString value ++ "`, expected " ++ (Wanted.word bits).message
  | noVariantAt index count =>
    "invalid value: integer `" ++ toString index ++ "`, expected variant index 0 <= i < " ++
      toString count
  | unknownVariant name known =>
    "unknown variant `" ++ name ++ "`, expected " ++ alternatives known
  | notOneKey => "invalid value: map, expected map with a single key"
  | tooShort length title size =>
    "invalid length " ++ toString length ++ ", expected " ++ title ++ " with " ++ elements size
  | tooLong length => "invalid length " ++ toString length ++ ", expected fewer elements in array"
  | surplus length size =>
    "invalid length " ++ toString length ++ ", expected " ++ elements size ++ " in sequence"
  | missingField name => "missing field `" ++ name ++ "`"
  | duplicateField name => "duplicate field `" ++ name ++ "`"
  | unknownStatus text =>
    "error status must be a number or \"default\", got \"" ++ text ++ "\""
  | noStatus => "data did not match any variant of untagged enum RawErrorStatus"
  | malformed => "malformed text"

end Fault

end ApiDescription
