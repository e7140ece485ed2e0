import ApiDescription.Yaml.Cursor
import ApiDescription.Json.Reader

namespace ApiDescription.Yaml

-- What can be said about a node before it: its name and its tag.

-- A tag is a string of bytes, which need not be text.
abbrev Octets := List UInt8

def octets (text : String) : Octets := text.toList.flatMap String.utf8EncodeChar

def textOf? (bytes : Octets) : Option String := String.fromUTF8? ⟨bytes.toArray⟩

def isNameChar (c : Char) : Bool := c.isAlphanum || c = '_' || c = '-'

def atBlank (c : Cursor) : Bool := startsBlank c.rest

-- The name of an anchor, or of the anchor that is referred to, after its mark.
def scanName (c : Cursor) : Option (String × Cursor) :=
  let (name, c) := c.skip.take isNameChar
  if name ≠ [] && (atBlank c || c.at? "?:,]\x7d%@`".toList.contains) then
    some (String.ofList name, c)
  else none

def isTagChar (verbatim : Bool) (c : Char) : Bool :=
  isNameChar c || ";/?:@&=+$.!~*'()%".toList.contains c || (verbatim && ",[]".toList.contains c)

def hexByte? : List Char → Option UInt8
  | '%' :: a :: b :: _ => do return .ofNat ((← Json.hexValue? a) * 16 + (← Json.hexValue? b))
  | _ => none

-- How many bytes follow the first one.
def followers? (first : UInt8) : Option Nat :=
  if first < 0x80 then some 0
  else if 0xC0 ≤ first ∧ first < 0xE0 then some 1
  else if 0xE0 ≤ first ∧ first < 0xF0 then some 2
  else if 0xF0 ≤ first ∧ first < 0xF8 then some 3
  else none

def isFollower (byte : UInt8) : Bool := 0x80 ≤ byte && byte < 0xC0

-- Bytes that are written in hexadecimal, as many as the first one asks for. Whether they are a
-- character does not matter.
def readEscaped (text : List Char) : Option Octets := do
  let first ← hexByte? text
  let count ← followers? first
  let more ← (List.range count).mapM fun i => hexByte? (text.drop (3 * (i + 1)))
  if more.all isFollower then return first :: more else none

-- The bytes of a tag.
def scanTagText (verbatim : Bool) : Nat → Cursor → Option (Octets × Cursor)
  | 0, c => some ([], c)
  | fuel + 1, c =>
    match c.rest with
    | [] => some ([], c)
    | char :: _ =>
      if !isTagChar verbatim char then some ([], c)
      else do
        let (bytes, width) ←
          if char = '%' then (fun bytes => (bytes, 3 * bytes.length)) <$> readEscaped c.rest
          else some ([UInt8.ofNat char.toNat], 1)
        let (more, c) ← scanTagText verbatim fuel (c.skips width)
        return (bytes ++ more, c)

-- A tag ends where it has a byte that is zero.
def untilZero (bytes : Octets) : Octets := bytes.takeWhile (· ≠ 0)

-- The handle that a tag begins with: a mark, a name and perhaps another mark.
def scanHandle (c : Cursor) : List Char × Cursor :=
  let (name, after) := c.skip.take isNameChar
  if after.isAt '!' then ('!' :: name ++ ['!'], after.skip) else ('!' :: name, after)

def endsHandle (handle : List Char) : Bool := 1 < handle.length && handle.getLast? = some '!'

-- A tag as the handle that stands for its first part, and the rest of it.
def scanTagParts (c : Cursor) : Option (String × Octets × Cursor) :=
  if c.skip.isAt '<' then do
    let (text, c) ← scanTagText true c.fuel (c.skips 2)
    if text ≠ [] && c.isAt '>' then return ("", untilZero text, c.skip) else none
  else
    let (handle, c) := scanHandle c
    if endsHandle handle then do
      let (text, c) ← scanTagText false c.fuel c
      if text = [] then none else return (String.ofList handle, untilZero text, c)
    else do
      let (more, c) ← scanTagText false c.fuel c
      match untilZero (octets (String.ofList (handle.drop 1)) ++ more) with
      | [] => return ("", octets "!", c)
      | text => return ("!", text, c)

def scanTag (flow : Bool) (c : Cursor) : Option (String × Octets × Cursor) := do
  let (handle, text, c) ← scanTagParts c
  if atBlank c || (flow && c.isAt ',') then return (handle, text, c) else none

-- What a line that begins with a percent sign says of the document.
inductive Directive where
  | version (major minor : Nat)
  | handle (name : String) (replacement : Octets)

def scanVersion (c : Cursor) : Option (Directive × Cursor) :=
  let (major, c) := (c.pass isBlank).take isDigit
  if major = [] ∨ 9 < major.length ∨ !c.isAt '.' then none
  else
    let (minor, c) := c.skip.take isDigit
    if minor = [] ∨ 9 < minor.length then none
    else some (.version (digitsValue 10 major) (digitsValue 10 minor), c)

def scanHandleDirective (c : Cursor) : Option (Directive × Cursor) := do
  let c := c.pass isBlank
  if !c.isAt '!' then none
  else
    let (name, c) := scanHandle c
    if name ≠ ['!'] && !endsHandle name then none
    else if !c.at? isBlank then none
    else
      let (text, c) ← scanTagText true c.fuel (c.pass isBlank)
      if text ≠ [] && atBlank c then
        return (.handle (String.ofList name) (untilZero text), c)
      else none

def scanDirective (c : Cursor) : Option (Directive × Cursor) := do
  let (name, c) := c.skip.take isNameChar
  if !atBlank c then none
  else
    let (directive, c) ← match String.ofList name with
      | "YAML" => scanVersion c
      | "TAG" => scanHandleDirective c
      | _ => none
    return (directive, ← c.passLineRest)

end ApiDescription.Yaml
