import ApiDescription.Reading.Parts
import ApiDescription.Yaml.Anchor
import ApiDescription.Yaml.Plain

namespace ApiDescription.Yaml

-- The tags of the types that every document has.
def boolTag : Octets := octets "tag:yaml.org,2002:bool"
def integerTag : Octets := octets "tag:yaml.org,2002:int"
def doubleTag : Octets := octets "tag:yaml.org,2002:float"
def nullTag : Octets := octets "tag:yaml.org,2002:null"

-- What follows the mark of a tag of the document's own; if nothing does, the mark.
def ownName? : Octets → Option Octets
  | [] => none
  | first :: rest =>
    if [first] ≠ octets "!" then none else some (if rest = [] then [first] else rest)

-- The name in a tag of the document's own, if it is text.
def localName? (tag : Octets) : Option String := (ownName? tag).bind textOf?

def isLocal (tag : Option Octets) : Bool := (tag.bind localName?).isSome

-- What a text is by itself. A tag decides, then the quotes, then the characters. A tag of the
-- document's own says that it is no plain value, but not if the tag cannot be told.
def scalarValue (tag : Option Octets) (style : ScalarStyle) (text : List Char) : Option Atom :=
  let untagged := if style = .plain then plainValue text else some (.string (String.ofList text))
  match tag with
  | none => untagged
  | some name =>
    if name = boolTag then .bool <$> boolWord? text
    else if name = integerTag then integerAtom? text
    else if name = doubleTag then double? text
    else if name = nullTag then if isNullWord text && text ≠ [] then some .null else none
    else if isLocal tag then none
    else if (ownName? name).isSome then untagged
    else some (.string (String.ofList text))

-- Whether an optional text is absent.
def scalarAbsent (tag : Option Octets) (style : ScalarStyle) (text : List Char) : Option Bool :=
  if style ≠ .plain then some false
  else match tag with
    | none => some (isNullWord text)
    | some name =>
      if name ≠ nullTag then some false
      else if isNullWord text && text ≠ [] then some true
      else none

-- Unquoted texts can be truth values and numbers where those are wanted, and blocks that say so.
def mayBe (wantedTag : Octets) (tag : Option Octets) (style : ScalarStyle) : Bool :=
  style = .plain || (style = .literal && tag = some wantedTag)

-- A tag names a variant if there is nothing else.
def scalarVariant (tag : Option Octets) (style : ScalarStyle) (text : List Char) : Option String :=
  match tag.bind localName? with
  | none => some (String.ofList text)
  | some name => if style = .plain && isNullWord text then some name else none

def readScalar (tag : Option Octets) (style : ScalarStyle) (text : String) : Scalar where
  text := text
  value := scalarValue tag style text.toList
  absent := scalarAbsent tag style text.toList
  bool := if mayBe boolTag tag style then boolWord? text.toList else none
  integer := if mayBe integerTag tag style then (unsigned? text.toList).map Int.ofNat else none
  variant := scalarVariant tag style text.toList
  blank := style = .plain && text = ""

namespace Tree

-- How deep lists and maps can lie in each other.
def depthLimit : Nat := 128

-- How many references are followed at most for each mark of the document.
def referenceLimit : Nat := 100

def mark (p : Properties Nat) (node : Node) : Node :=
  if isLocal p.tag then .marked node else node

-- The node that a tree stands for, while references may still be followed.
def target (anchors : List (Nat × Tree Nat)) : Tree Nat → StateM Nat (Option (Tree Nat))
  | reference number => do
    match ← get with
    | 0 => return none
    | left + 1 =>
      set left
      return anchors.lookup number
  | tree => return some tree

def keyText : Node → String
  | .scalar s => s.text
  | _ => ""

-- The document with every reference replaced by the node that it stands for. What lies too deep, or
-- comes after too many references, is flawed; so a node that contains itself is flawed somewhere.
-- Parts that are passed over are flawed too: there no reference is followed.
def expand (anchors : List (Nat × Tree Nat)) : Nat → Parts → Tree Nat → StateM Nat Node
  | 0, _, tree => do
    match ← target anchors tree with
    | some (scalar p style text) => return .scalar (readScalar p.tag style text)
    | _ => return .flawed
  | depth + 1, parts, tree => do
    match ← target anchors tree with
    | some (scalar p style text) => return .scalar (readScalar p.tag style text)
    | some (list p items) =>
      return mark p (.list (← items.mapM (expand anchors depth parts.ofItem)))
    | some (map p entries) =>
      return mark p (.map (← entries.mapM fun (key, value) => do
        let key ← expand anchors depth .whole key
        match parts.ofValue? (keyText key) with
        | some parts => return (key, ← expand anchors depth parts value)
        | none => return (key, .flawed)))
    | _ => return .flawed

def toNode? (parts : Parts) (tree : Tree String) : Option Node := do
  let (tree, _) ← numbered tree []
  let limit := referenceLimit * tree.size
  let (node, _) := (expand (anchored tree).reverse depthLimit parts tree).run limit
  return node

end Tree

-- The one document of a text, if it is one, as far as it is read.
def readTree? (parts : Parts) (text : String) : Option Node := do
  let tokens ← Token.ofText? text
  let tree ← Tree.ofTokens? tokens
  tree.toNode? parts

end ApiDescription.Yaml
