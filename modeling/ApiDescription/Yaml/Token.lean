import ApiDescription.Yaml.Property
import ApiDescription.Yaml.Scalar

namespace ApiDescription.Yaml

inductive ScalarStyle where
  | plain
  | quoted
  | literal
  | folded
deriving DecidableEq, Repr

-- What a text is made of. Where a block or a key begins there is no mark in the text; the tokens
-- have one.
inductive Token where
  | directive (value : Directive)
  | documentStart
  | documentEnd
  | blockList
  | blockMap
  | blockEnd
  | flowList
  | flowListEnd
  | flowMap
  | flowMapEnd
  | blockEntry
  | flowEntry
  | key
  | value
  | reference (name : String)
  | anchor (name : String)
  | tag (handle : String) (text : Octets)
  | scalar (style : ScalarStyle) (text : String)

-- A place where a key may have begun: that is known only when a colon comes.
structure KeyStart where
  -- How many tokens there are before it.
  before : Nat
  -- Whether nothing but a key can stand there.
  required : Bool
  line : Nat
  column : Nat
  index : Nat

structure Scan where
  place : Cursor
  -- Latest token first.
  tokens : List Token := []
  count : Nat := 0
  -- How many flow containers are open.
  flow : Nat := 0
  -- The margin of the block, and those of the blocks around it.
  indent : Int := -1
  indents : List Int := []
  keyAllowed : Bool := true
  -- One for each open flow container and one for the blocks around all of them.
  keys : List (Option KeyStart) := [none]

namespace Scan

def push (token : Token) (s : Scan) : Scan :=
  { s with tokens := token :: s.tokens, count := s.count + 1 }

-- Puts a token before the last ones, so that `before` tokens precede it.
def insert (token : Token) (before : Nat) (s : Scan) : Scan :=
  let later := s.count - before
  { s with
    tokens := s.tokens.take later ++ token :: s.tokens.drop later
    count := s.count + 1 }

def moveTo (place : Cursor) (s : Scan) : Scan := { s with place }

def skips (count : Nat) (s : Scan) : Scan := { s with place := s.place.skips count }

def allowKey (allowed : Bool) (s : Scan) : Scan := { s with keyAllowed := allowed }

-- Closes the blocks whose margin lies to the right.
def closeBlocks (column : Int) : Nat → Scan → Scan
  | 0, s => s
  | fuel + 1, s =>
    if s.flow = 0 ∧ column < s.indent then
      closeBlocks column fuel
        { s.push .blockEnd with indent := s.indents.headD (-1), indents := s.indents.drop 1 }
    else s

def closeTo (column : Int) (s : Scan) : Scan := s.closeBlocks column (s.indents.length + 1)

-- Opens a block if the margin moves to the right.
def openBlock (column before : Nat) (token : Token) (s : Scan) : Scan :=
  if s.flow = 0 ∧ s.indent < column then
    { s.insert token before with indent := column, indents := s.indent :: s.indents }
  else s

-- No key can begin any more where one could have begun.
def dropKey (s : Scan) : Option Scan :=
  match s.keys with
  | some key :: rest => if key.required then none else some { s with keys := none :: rest }
  | _ => some s

-- Within how many bytes a key has to end.
def keyLimit : Nat := 1024

-- A key has to be on one line and not too long.
def dropStale (s : Scan) : Option Scan := do
  let keys ← s.keys.mapM fun key =>
    match key with
    | none => some none
    | some start =>
      if start.line < s.place.line || start.index + keyLimit < s.place.index then
        if start.required then none else some none
      else some (some start)
  return { s with keys }

-- Remembers that a key may begin here.
def markKey (s : Scan) : Option Scan :=
  if !s.keyAllowed then some s
  else do
    let s ← s.dropKey
    let start : KeyStart := {
      before := s.count
      required := s.flow = 0 && s.indent = s.place.column
      line := s.place.line
      column := s.place.column
      index := s.place.index }
    return { s with keys := some start :: s.keys.drop 1 }

-- Passes white space and comments. A tab cannot stand where a block may begin. A line can begin
-- with a byte order mark, which takes up a column.
def passBlanks : Nat → Scan → Scan
  | 0, s => s
  | fuel + 1, s =>
    let tabs := s.flow ≠ 0 || !s.keyAllowed
    let place := if s.place.column = 0 && s.place.isAt '\uFEFF' then s.place.skip else s.place
    let place := place.pass fun c => c = ' ' || (tabs && c = '\t')
    let place := if place.isAt '#' then place.pass fun c => !isBreak c else place
    if place.at? isBreak then
      passBlanks fuel { s with place := place.passBreak, keyAllowed := s.keyAllowed || s.flow = 0 }
    else { s with place }

def scanDocumentMark (token : Token) (s : Scan) : Option Scan := do
  let s ← (s.closeTo (-1)).dropKey
  return ((s.allowKey false).skips 3).push token

def openFlow (token : Token) (s : Scan) : Option Scan := do
  let s ← s.markKey
  let s := { s with keys := none :: s.keys, flow := s.flow + 1 }
  return ((s.allowKey true).skips 1).push token

def closeFlow (token : Token) (s : Scan) : Option Scan := do
  let s ← s.dropKey
  let s := if s.flow = 0 then s else { s with keys := s.keys.drop 1, flow := s.flow - 1 }
  return ((s.allowKey false).skips 1).push token

def scanFlowEntry (s : Scan) : Option Scan := do
  let s ← s.dropKey
  return ((s.allowKey true).skips 1).push .flowEntry

def scanBlockEntry (s : Scan) : Option Scan := do
  if s.flow = 0 ∧ !s.keyAllowed then none
  else
    let s ← (s.openBlock s.place.column s.count .blockList).dropKey
    return ((s.allowKey true).skips 1).push .blockEntry

def scanKey (s : Scan) : Option Scan := do
  if s.flow = 0 ∧ !s.keyAllowed then none
  else
    let s ← (s.openBlock s.place.column s.count .blockMap).dropKey
    return ((s.allowKey (s.flow = 0)).skips 1).push .key

-- A colon. If a key may have begun before it, it did.
def scanValue (s : Scan) : Option Scan :=
  match s.keys with
  | some start :: rest =>
    let s := (s.insert .key start.before).openBlock start.column start.before .blockMap
    let s := { s with keys := none :: rest }
    some (((s.allowKey false).skips 1).push .value)
  | _ =>
    if s.flow = 0 ∧ !s.keyAllowed then none
    else
      let s := s.openBlock s.place.column s.count .blockMap
      some (((s.allowKey (s.flow = 0)).skips 1).push .value)

-- A token that a key can begin with.
def scanInline (read : Cursor → Option (Token × Cursor)) (s : Scan) : Option Scan := do
  let s ← s.markKey
  let (token, place) ← read s.place
  return ((s.allowKey false).moveTo place).push token

def scanPlainText (s : Scan) : Option Scan := do
  let s ← s.markKey
  let (text, broken, place) ← scanPlain (s.flow ≠ 0) (s.indent + 1) s.place
  return ((s.allowKey broken).moveTo place).push (.scalar .plain (String.ofList text))

def scanBlockText (literal : Bool) (s : Scan) : Option Scan := do
  let s ← s.dropKey
  let (text, place) ← scanBlock literal s.indent s.place
  let style := if literal then ScalarStyle.literal else .folded
  return ((s.allowKey true).moveTo place).push (.scalar style (String.ofList text))

def scanDirectiveLine (s : Scan) : Option Scan := do
  let s ← (s.closeTo (-1)).dropKey
  let (directive, place) ← scanDirective s.place
  return ((s.allowKey false).moveTo place).push (.directive directive)

def quotedToken (single : Bool) (c : Cursor) : Option (Token × Cursor) := do
  let (text, c) ← scanQuoted single c
  return (.scalar .quoted (String.ofList text), c)

def tagToken (flow : Bool) (c : Cursor) : Option (Token × Cursor) := do
  let (handle, text, c) ← scanTag flow c
  return (.tag handle text, c)

def nameToken (token : String → Token) (c : Cursor) : Option (Token × Cursor) := do
  let (name, c) ← scanName c
  return (token name, c)

-- Marks with which an unquoted text cannot begin.
def isMark (c : Char) : Bool := "-?:,[]\x7b\x7d#&*!|>'\"%@`".toList.contains c

-- The next token, at a place that is no white space.
def scanToken (char : Char) (rest : List Char) (s : Scan) : Option Scan :=
  let flow := s.flow ≠ 0
  let apart := startsBlank rest
  if s.place.column = 0 && char = '%' then s.scanDirectiveLine
  else if s.place.atDocumentMark then
    s.scanDocumentMark (if char = '-' then .documentStart else .documentEnd)
  else match char with
    | '[' => s.openFlow .flowList
    | '\x7b' => s.openFlow .flowMap
    | ']' => s.closeFlow .flowListEnd
    | '\x7d' => s.closeFlow .flowMapEnd
    | ',' => s.scanFlowEntry
    | '*' => s.scanInline (nameToken .reference)
    | '&' => s.scanInline (nameToken .anchor)
    | '!' => s.scanInline (tagToken flow)
    | '\'' => s.scanInline (quotedToken true)
    | '"' => s.scanInline (quotedToken false)
    | char =>
      if char = '-' && apart then s.scanBlockEntry
      else if char = '?' && (flow || apart) then s.scanKey
      else if char = ':' && (flow || apart) then s.scanValue
      else if char = '|' && !flow then s.scanBlockText true
      else if char = '>' && !flow then s.scanBlockText false
      else if (!isMark char && !isBlank char) || (char = '-' && !rest.head?.any isBlank) ||
          (!flow && (char = '?' || char = ':') && !apart) then s.scanPlainText
      else none

def finish (s : Scan) : Option Scan := (s.closeTo (-1)).dropKey

def scanAll : Nat → Scan → Option Scan
  | 0, _ => none
  | fuel + 1, s => do
    let s ← (s.passBlanks s.place.fuel).dropStale
    let s := s.closeTo s.place.column
    match s.place.rest with
    | [] => s.finish
    | char :: rest => scanAll fuel (← s.scanToken char rest)

end Scan

-- The tokens of a text; none if it has a character that no text may have, or if some part of it is
-- no token.
def Token.ofText? (text : String) : Option (List Token) := do
  if !text.toList.all isAllowed then none
  else
    let place : Cursor := { rest := text.toList }
    let s ← Scan.scanAll (2 * place.fuel) { place }
    return s.tokens.reverse

end ApiDescription.Yaml
