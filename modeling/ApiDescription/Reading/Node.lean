import ApiDescription.Json.Value
import ApiDescription.Reading.Fault

namespace ApiDescription

-- A value without parts. Infinities and the undefined number can be written but are no `Number`. A
-- zero with a minus sign is a number, but no place in a list.
inductive Atom where
  | null
  | bool (value : Bool)
  | number (value : Number)
  | minusZero
  | notFinite
  | string (value : String)
deriving DecidableEq, Repr

-- A piece of text that reads differently by what is wanted of it. Where a field is empty the text
-- has no such reading.
structure Scalar where
  text : String
  -- The value where nothing in particular is wanted.
  value : Option Atom
  -- Whether an optional value is absent.
  absent : Option Bool
  bool : Option Bool
  integer : Option Int
  -- The variant that it names.
  variant : Option String
  -- Whether it stands for an empty list or an empty map.
  blank : Bool
deriving Repr

-- A document as it is written, before it is known what it describes.
inductive Node where
  | atom (value : Atom)
  | scalar (value : Scalar)
  | list (items : List Node)
  | map (entries : List (Node × Node))
  -- A list or map that says what it is, and is no plain value any more.
  | marked (node : Node)
  -- A part that may be passed over but not be read.
  | flawed
deriving Repr, Inhabited

-- Where a document comes from. A value is a tree of JSON; `buffered` is a part that was read
-- without knowing what it is and is then looked at again.
inductive Medium where
  | value
  | buffered
  | json
  | yaml
deriving DecidableEq, Repr

namespace Json

mutual

def node : Json → Node
  | null => .atom .null
  | bool value => .atom (.bool value)
  | number value => .atom (.number value)
  | string value => .atom (.string value)
  | array items => .list (nodes items)
  | object entries => .map (entryNodes entries)

def nodes : List Json → List Node
  | [] => []
  | item :: rest => node item :: nodes rest

def entryNodes : List (String × Json) → List (Node × Node)
  | [] => []
  | (key, value) :: rest => (.atom (.string key), node value) :: entryNodes rest

end

end Json

namespace Node

mutual

def depth : Node → Nat
  | list items => depthItems items + 1
  | map entries => depthEntries entries + 1
  | marked node => depth node + 1
  | _ => 0

def depthItems : List Node → Nat
  | [] => 0
  | item :: rest => max (depth item) (depthItems rest)

def depthEntries : List (Node × Node) → Nat
  | [] => 0
  | (key, value) :: rest => max (max (depth key) (depth value)) (depthEntries rest)

end

mutual

-- The document with every piece of text read as the value it is by itself.
def settle : Node → Except Fault Node
  | scalar s =>
    match s.value with
    | some value => .ok (atom value)
    | none => .error .malformed
  | list items => list <$> settleItems items
  | map entries => map <$> settleEntries entries
  | marked _ => .error .malformed
  | flawed => .error .malformed
  | other => .ok other

def settleItems : List Node → Except Fault (List Node)
  | [] => .ok []
  | item :: rest => do
    let item ← settle item
    let rest ← settleItems rest
    return item :: rest

def settleEntries : List (Node × Node) → Except Fault (List (Node × Node))
  | [] => .ok []
  | (key, value) :: rest => do
    let key ← settle key
    let value ← settle value
    let rest ← settleEntries rest
    return (key, value) :: rest

end

-- A part that is set aside and looked at again. Values are settled already.
def buffer (medium : Medium) (node : Node) : Except Fault Node :=
  match medium with
  | .json | .yaml => node.settle
  | .value | .buffered => .ok node

def mismatch (wanted : Wanted) : Node → Fault
  | atom .null => .wrongType .null wanted
  | atom (.bool value) => .wrongType (.bool value) wanted
  | atom (.number value) => .wrongType (.number value) wanted
  | atom (.string value) => .wrongType (.string value) wanted
  | list _ => .wrongType .list wanted
  | map _ => .wrongType .map wanted
  | _ => .malformed

def asString (wanted : Wanted := .string) : Node → Except Fault String
  | atom (.string value) => .ok value
  | scalar s => .ok s.text
  | other => .error (other.mismatch wanted)

def asBool : Node → Except Fault Bool
  | atom (.bool value) => .ok value
  | scalar s => match s.bool with
    | some value => .ok value
    | none => .error .malformed
  | other => .error (other.mismatch .boolean)

def asNumber : Node → Except Fault Number
  | atom (.number value) => .ok value
  | atom .minusZero => .ok .zero
  | other => .error (other.mismatch .number)

-- A number that fits into so many bits, without a sign.
def inWord (bits : Nat) (value : Int) : Except Fault Nat :=
  if 0 ≤ value ∧ value < (Nat.pow 2 bits : Nat) then .ok value.toNat
  else .error (.outOfRange value bits)

def asWord (bits : Nat) : Node → Except Fault Nat
  | atom (.number (.integer value _)) => inWord bits value
  | atom .minusZero => .ok 0
  | scalar s => match s.integer with
    | some value => inWord bits value
    | none => .error .malformed
  | other => .error (other.mismatch (.word bits))

def asUInt16 (node : Node) : Except Fault UInt16 := UInt16.ofNat <$> node.asWord 16

def asUInt64 (node : Node) : Except Fault UInt64 := UInt64.ofNat <$> node.asWord 64

-- An absent value reads as none, any other as what `read` makes of it.
def asOption (read : Node → Except Fault α) : Node → Except Fault (Option α)
  | atom .null => .ok none
  | scalar s => match s.absent with
    | some true => .ok none
    | some false => some <$> read (scalar s)
    | none => .error .malformed
  | other => some <$> read other

def asItems : Node → Except Fault (List Node)
  | list items => .ok items
  | marked (list items) => .ok items
  | scalar s => if s.blank then .ok [] else .error .malformed
  | other => .error (other.mismatch .list)

def asEntries (wanted : Wanted) : Node → Except Fault (List (Node × Node))
  | map entries => .ok entries
  | marked (map entries) => .ok entries
  | scalar s => if s.blank then .ok [] else .error .malformed
  | other => .error (other.mismatch wanted)

def asList (read : Node → Except Fault α) (node : Node) : Except Fault (List α) := do
  (← node.asItems).mapM read

def readPairs (read : Node → Except Fault α) : List (Node × Node) → Except Fault (List (String × α))
  | [] => .ok []
  | (key, value) :: rest => do
    let key ← key.asString
    let value ← read value
    let rest ← readPairs read rest
    return (key, value) :: rest

-- A key that comes again keeps its first place and has its last value.
def asMap (read : Node → Except Fault α) (node : Node) : Except Fault (Entries α) := do
  Entries.ofList <$> readPairs read (← node.asEntries .map)

mutual

-- Any value at all. What is no number has no counterpart and becomes null.
def asJson : Node → Except Fault Json
  | atom .null => .ok .null
  | atom .notFinite => .ok .null
  | atom (.bool value) => .ok (.bool value)
  | atom (.number value) => .ok (.number value)
  | atom .minusZero => .ok (.number .zero)
  | atom (.string value) => .ok (.string value)
  | scalar s =>
    match s.value with
    | some .null | some .notFinite => .ok .null
    | some (.bool value) => .ok (.bool value)
    | some (.number value) => .ok (.number value)
    | some .minusZero => .ok (.number .zero)
    | some (.string value) => .ok (.string value)
    | none => .error .malformed
  | list items => Json.array <$> asJsonItems items
  | map entries => (fun pairs => Json.object (Entries.ofList pairs)) <$> asJsonEntries entries
  | _ => .error .malformed

def asJsonItems : List Node → Except Fault (List Json)
  | [] => .ok []
  | item :: rest => do
    let item ← asJson item
    let rest ← asJsonItems rest
    return item :: rest

def asJsonEntries : List (Node × Node) → Except Fault (List (String × Json))
  | [] => .ok []
  | (key, value) :: rest => do
    let key ← key.asString
    let value ← asJson value
    let rest ← asJsonEntries rest
    return (key, value) :: rest

end

end Node

end ApiDescription
