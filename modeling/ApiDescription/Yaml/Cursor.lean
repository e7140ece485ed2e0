import ApiDescription.Yaml.Character

namespace ApiDescription.Yaml

-- A place in a text, with what is still to be read there. The column counts characters, the index
-- counts bytes.
structure Cursor where
  rest : List Char
  line : Nat := 0
  column : Nat := 0
  index : Nat := 0

namespace Cursor

-- How many bytes some characters take.
def width (chars : List Char) : Nat := chars.foldl (fun sum c => sum + c.utf8Size) 0

def next (c : Cursor) : List Char := c.rest.drop 1

def at? (p : Char → Bool) (c : Cursor) : Bool := c.rest.head?.any p

def isAt (char : Char) (c : Cursor) : Bool := c.rest.head? = some char

def fuel (c : Cursor) : Nat := c.rest.length + 1

def skips (count : Nat) (c : Cursor) : Cursor :=
  { c with
    rest := c.rest.drop count
    column := c.column + count
    index := c.index + width (c.rest.take count) }

def skip (c : Cursor) : Cursor := c.skips 1

-- The characters of the line that have a property, and the place after them.
def take (p : Char → Bool) (c : Cursor) : List Char × Cursor :=
  let taken := c.rest.takeWhile p
  (taken, c.skips taken.length)

def pass (p : Char → Bool) (c : Cursor) : Cursor := (c.take p).2

-- A line break, and the place after it. All but two of them stand for a line feed.
def takeBreak (c : Cursor) : List Char × Cursor :=
  let down (count : Nat) : Cursor := { c.skips count with line := c.line + 1, column := 0 }
  match c.rest with
  | '\r' :: '\n' :: _ => (['\n'], down 2)
  | char :: _ =>
    if char = '\u2028' || char = '\u2029' then ([char], down 1)
    else if isBreak char then (['\n'], down 1)
    else ([], c)
  | [] => ([], c)

def passBreak (c : Cursor) : Cursor := c.takeBreak.2

-- Whether a line starts here that begins or ends a document.
def atDocumentMark (c : Cursor) : Bool :=
  c.column = 0 &&
    match c.rest with
    | '-' :: '-' :: '-' :: rest | '.' :: '.' :: '.' :: rest => startsBlank rest
    | _ => false

def atLineEnd (c : Cursor) : Bool := c.rest.isEmpty || c.at? isBreak

-- The rest of a line may hold a comment only.
def passLineRest (c : Cursor) : Option Cursor :=
  let c := c.pass isBlank
  let c := if c.isAt '#' then c.pass fun char => !isBreak char else c
  if c.atLineEnd then some c.passBreak else none

end Cursor

end ApiDescription.Yaml
