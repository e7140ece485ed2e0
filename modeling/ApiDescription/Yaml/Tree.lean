import ApiDescription.Yaml.Token

namespace ApiDescription.Yaml

-- What is said about a node: the name under which it can be referred to, and its tag.
structure Properties (ν : Type) where
  anchor : Option ν := none
  tag : Option Octets := none

-- The nodes of a text. A reference stands for the node with that name; `ν` is what names are.
inductive Tree (ν : Type) where
  | scalar (properties : Properties ν) (style : ScalarStyle) (text : String)
  | list (properties : Properties ν) (items : List (Tree ν))
  | map (properties : Properties ν) (entries : List (Tree ν × Tree ν))
  | reference (name : ν)

namespace Tree

-- A node of which nothing is written.
def empty (properties : Properties ν := {}) : Tree ν := scalar properties .plain ""

-- The first parts of tags and what they stand for.
abbrev Handles := List (String × Octets)

def commonHandles : Handles := [("!", octets "!"), ("!!", octets "tag:yaml.org,2002:")]

def resolveTag (handles : Handles) (handle : String) (text : Octets) : Option Octets :=
  if handle = "" then some text
  else (Entries.get? handles handle).map (· ++ text)

def takeAnchor (properties : Properties String) : List Token → Properties String × List Token
  | .anchor name :: rest => ({ properties with anchor := some name }, rest)
  | tokens => (properties, tokens)

def takeTag (handles : Handles) (properties : Properties String) :
    List Token → Option (Properties String × List Token)
  | .tag handle text :: rest => do
    return ({ properties with tag := some (← resolveTag handles handle text) }, rest)
  | tokens => some (properties, tokens)

-- An anchor and a tag, in any order.
def takeProperties (handles : Handles) (tokens : List Token) :
    Option (Properties String × List Token) :=
  match tokens with
  | .anchor _ :: _ =>
    let (properties, rest) := takeAnchor {} tokens
    takeTag handles properties rest
  | _ => do
    let (properties, rest) ← takeTag handles {} tokens
    if properties.tag.isNone then return (properties, rest) else return takeAnchor properties rest

def endsBlockNode : List Token → Bool
  | .key :: _ | .value :: _ | .blockEnd :: _ => true
  | _ => false

def endsBlockItem : List Token → Bool
  | .blockEntry :: _ | .blockEnd :: _ => true
  | _ => false

def endsOpenItem (tokens : List Token) : Bool := endsBlockNode tokens || endsBlockItem tokens

def endsPairKey : List Token → Bool
  | .value :: _ | .flowEntry :: _ | .flowListEnd :: _ => true
  | _ => false

def endsPairValue : List Token → Bool
  | .flowEntry :: _ | .flowListEnd :: _ => true
  | _ => false

def endsFlowKey : List Token → Bool
  | .value :: _ | .flowEntry :: _ | .flowMapEnd :: _ => true
  | _ => false

def endsFlowValue : List Token → Bool
  | .flowEntry :: _ | .flowMapEnd :: _ => true
  | _ => false

mutual

-- A node at the head of the tokens. `block` allows blocks, `openList` a list of entries without a
-- margin of its own. The fuel bounds the steps; twice the count of the tokens is enough.
def node (handles : Handles) (block openList : Bool) :
    Nat → List Token → Option (Tree String × List Token)
  | 0, _ => none
  | _ + 1, .reference name :: rest => some (reference name, rest)
  | fuel + 1, tokens => do
    let (properties, tokens) ← takeProperties handles tokens
    let container {α : Type} (read : Option (α × List Token)) (make : α → Tree String) :
        Option (Tree String × List Token) :=
      read.map fun (parts, rest) => (make parts, rest)
    match tokens, block, openList with
    | .blockEntry :: _, _, true => container (openItems handles fuel tokens) (list properties)
    | .scalar style text :: rest, _, _ => some (scalar properties style text, rest)
    | .flowList :: rest, _, _ => container (flowItems handles true fuel rest) (list properties)
    | .flowMap :: rest, _, _ => container (flowEntries handles true fuel rest) (map properties)
    | .blockList :: rest, true, _ => container (blockItems handles fuel rest) (list properties)
    | .blockMap :: rest, true, _ => container (blockEntries handles fuel rest) (map properties)
    | tokens, _, _ =>
      if properties.anchor.isSome || properties.tag.isSome then some (empty properties, tokens)
      else none

-- A node, or nothing where the tokens that may follow a missing node follow.
def nodeUnless (ends : List Token → Bool) (handles : Handles) (block openList : Bool) :
    Nat → List Token → Option (Tree String × List Token)
  | 0, _ => none
  | fuel + 1, tokens =>
    if ends tokens then some (empty, tokens) else node handles block openList fuel tokens

-- The value after a key, if there is one.
def valueUnless (ends : List Token → Bool) (handles : Handles) (block openList : Bool) :
    Nat → List Token → Option (Tree String × List Token)
  | 0, _ => none
  | fuel + 1, .value :: rest => nodeUnless ends handles block openList fuel rest
  | _ + 1, tokens => some (empty, tokens)

def blockItems (handles : Handles) : Nat → List Token → Option (List (Tree String) × List Token)
  | 0, _ => none
  | _ + 1, .blockEnd :: rest => some ([], rest)
  | fuel + 1, .blockEntry :: rest => do
    let (item, rest) ← nodeUnless endsBlockItem handles true false fuel rest
    let (items, rest) ← blockItems handles fuel rest
    return (item :: items, rest)
  | _ + 1, _ => none

def openItems (handles : Handles) : Nat → List Token → Option (List (Tree String) × List Token)
  | 0, _ => none
  | fuel + 1, .blockEntry :: rest => do
    let (item, rest) ← nodeUnless endsOpenItem handles true false fuel rest
    let (items, rest) ← openItems handles fuel rest
    return (item :: items, rest)
  | _ + 1, tokens => some ([], tokens)

def blockEntries (handles : Handles) :
    Nat → List Token → Option (List (Tree String × Tree String) × List Token)
  | 0, _ => none
  | _ + 1, .blockEnd :: rest => some ([], rest)
  | fuel + 1, .key :: rest => do
    let (key, rest) ← nodeUnless endsBlockNode handles true true fuel rest
    let (value, rest) ← valueUnless endsBlockNode handles true true fuel rest
    let (entries, rest) ← blockEntries handles fuel rest
    return ((key, value) :: entries, rest)
  | _ + 1, _ => none

def flowItems (handles : Handles) (first : Bool) :
    Nat → List Token → Option (List (Tree String) × List Token)
  | 0, _ => none
  | _ + 1, .flowListEnd :: rest => some ([], rest)
  | fuel + 1, tokens => do
    let tokens ← match first, tokens with
      | true, tokens => some tokens
      | false, .flowEntry :: rest => some rest
      | false, _ => none
    match tokens with
    | .flowListEnd :: rest => return ([], rest)
    | .key :: rest =>
      let (key, rest) ← if endsPairKey rest then some (empty, rest.drop 1)
        else node handles false false fuel rest
      let (value, rest) ← valueUnless endsPairValue handles false false fuel rest
      let (items, rest) ← flowItems handles false fuel rest
      return (map {} [(key, value)] :: items, rest)
    | tokens =>
      let (item, rest) ← node handles false false fuel tokens
      let (items, rest) ← flowItems handles false fuel rest
      return (item :: items, rest)

def flowEntries (handles : Handles) (first : Bool) :
    Nat → List Token → Option (List (Tree String × Tree String) × List Token)
  | 0, _ => none
  | _ + 1, .flowMapEnd :: rest => some ([], rest)
  | fuel + 1, tokens => do
    let tokens ← match first, tokens with
      | true, tokens => some tokens
      | false, .flowEntry :: rest => some rest
      | false, _ => none
    match tokens with
    | .flowMapEnd :: rest => return ([], rest)
    | .key :: rest =>
      let (key, rest) ← nodeUnless endsFlowKey handles false false fuel rest
      let (value, rest) ← valueUnless endsFlowValue handles false false fuel rest
      let (entries, rest) ← flowEntries handles false fuel rest
      return ((key, value) :: entries, rest)
    | tokens =>
      let (key, rest) ← node handles false false fuel tokens
      let (entries, rest) ← flowEntries handles false fuel rest
      return ((key, empty) :: entries, rest)

end

def isDirective : Token → Bool
  | .directive _ => true
  | _ => false

-- The handles that the lines before a document declare. There may be one version, and each handle
-- once.
def declaredHandles : List Token → Bool → Handles → Option Handles
  | .directive (.version major minor) :: rest, versioned, handles =>
    if versioned || major ≠ 1 || (minor ≠ 1 && minor ≠ 2) then none
    else declaredHandles rest true handles
  | .directive (.handle name replacement) :: rest, versioned, handles =>
    if Entries.contains handles name then none
    else declaredHandles rest versioned (Entries.insert handles name replacement)
  | _, _, handles => some handles

def endsDocument : List Token → Bool
  | [] | .directive _ :: _ | .documentStart :: _ | .documentEnd :: _ => true
  | _ => false

def isDocumentEnd : Token → Bool
  | .documentEnd => true
  | _ => false

-- The one document of some tokens; no tokens are an empty document.
def ofTokens? (tokens : List Token) : Option (Tree String) := do
  let fuel := 4 * tokens.length + 4
  let declared ← declaredHandles tokens false []
  let handles := declared ++ commonHandles
  let body := tokens.dropWhile isDirective
  let (tree, rest) ← match tokens, body with
    | [], _ => some (empty, [])
    | _, .documentStart :: rest =>
      if endsDocument rest then some (empty, rest) else node handles true false fuel rest
    | .directive _ :: _, _ => none
    | _, _ => node handles true false fuel tokens
  if rest.all isDocumentEnd then some tree else none

end Tree

end ApiDescription.Yaml
