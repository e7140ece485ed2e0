import ApiDescription.Yaml.Cursor
import ApiDescription.Json.Reader

namespace ApiDescription.Yaml

-- White space inside of a text: blanks on one line, or line breaks.
structure Gap where
  blanks : List Char := []
  breaks : List Char := []

-- A single line feed becomes a space, and of several the first one is dropped. After an escaped
-- break all of them stay.
def Gap.text (g : Gap) (escaped : Bool) : List Char :=
  match g.breaks with
  | [] => if escaped then [] else g.blanks
  | first :: more =>
    if escaped || first ≠ '\n' then first :: more
    else if more = [] then [' '] else more

-- `fresh` says that a line has started, whose blanks do not count. A tab must not stand where the
-- line has to be indented.
def scanGap (indent : Int) : Nat → Bool → Cursor → Option (Gap × Cursor)
  | 0, _, c => some ({}, c)
  | fuel + 1, fresh, c =>
    match c.rest with
    | [] => some ({}, c)
    | char :: _ =>
      if isBlank char then
        if fresh then
          if char = '\t' ∧ (c.column : Int) < indent then none else scanGap indent fuel true c.skip
        else do
          let (g, c) ← scanGap indent fuel false c.skip
          return ({ g with blanks := char :: g.blanks }, c)
      else if isBreak char then do
        let (first, c) := c.takeBreak
        let (g, c) ← scanGap indent fuel true c
        return ({ g with breaks := first ++ g.breaks }, c)
      else some ({}, c)

def isFlowMark (c : Char) : Bool := ",[]\x7b\x7d".toList.contains c

-- The characters of an unquoted text up to white space or to what ends it.
def scanWord (flow : Bool) : List Char → Option (List Char)
  | [] => some []
  | c :: rest =>
    let colon := c = ':'
    if isBlank c || isBreak c then some []
    else if flow && colon && rest.head?.any (fun d => isFlowMark d || d = '?') then none
    else if (colon && startsBlank rest) || (flow && isFlowMark c) then some []
    else (c :: ·) <$> scanWord flow rest

-- An unquoted text. `gap` is the white space before the next word, and `broken` tells whether there
-- is a break in it. The result tells the same of the white space at the end.
def scanPlainFrom (flow : Bool) (indent : Int) :
    Nat → List Char → Bool → Cursor → Option (List Char × Bool × Cursor)
  | 0, _, broken, c => some ([], broken, c)
  | fuel + 1, gap, broken, c =>
    if c.atDocumentMark || c.isAt '#' then some ([], broken, c)
    else do
      let word ← scanWord flow c.rest
      let c := c.skips word.length
      let text := if word = [] then [] else gap ++ word
      let broken := word = [] && broken
      if !c.at? (fun char => isBlank char || isBreak char) then return (text, broken, c)
      else
        let (g, c) ← scanGap indent fuel false c
        let broken := g.breaks ≠ []
        if !flow && (c.column : Int) < indent then return (text, broken, c)
        else
          let (more, broken, c) ← scanPlainFrom flow indent fuel (g.text false) broken c
          return (text ++ more, broken, c)

def scanPlain (flow : Bool) (indent : Int) (c : Cursor) : Option (List Char × Bool × Cursor) :=
  scanPlainFrom flow indent (2 * c.fuel) [] false c

def escapedChar? : Char → Option Char
  | '0' => some '\x00'
  | 'a' => some '\x07'
  | 'b' => some '\x08'
  | 't' | '\t' => some '\t'
  | 'n' => some '\n'
  | 'v' => some '\x0b'
  | 'f' => some '\x0c'
  | 'r' => some '\r'
  | 'e' => some '\x1b'
  | ' ' => some ' '
  | '"' => some '"'
  | '/' => some '/'
  | '\\' => some '\\'
  | 'N' => some '\u0085'
  | '_' => some '\u00a0'
  | 'L' => some '\u2028'
  | 'P' => some '\u2029'
  | _ => none

-- How many hexadecimal digits an escape has.
def codeWidth? : Char → Option Nat
  | 'x' => some 2
  | 'u' => some 4
  | 'U' => some 8
  | _ => none

-- The character of an escape after its backslash, and the length of the escape.
def readEscape : List Char → Option (Char × Nat)
  | [] => none
  | letter :: rest =>
    match escapedChar? letter, codeWidth? letter with
    | some char, _ => some (char, 1)
    | none, some width => do
      let ds ← (rest.take width).mapM Json.hexValue?
      let n := ds.foldl (fun acc d => acc * 16 + d) 0
      if ds.length = width ∧ n.isValidChar then some (Char.ofNat n, width + 1) else none
    | none, none => none

-- The characters of a quoted text up to white space or the quote, and whether an escaped break
-- ends them.
def scanChunk (single : Bool) : Nat → Cursor → Option (List Char × Bool × Cursor)
  | 0, c => some ([], false, c)
  | fuel + 1, c =>
    match c.rest with
    | [] => some ([], false, c)
    | char :: rest =>
      if isBlank char || isBreak char then some ([], false, c)
      else if single then
        if char ≠ '\'' then further char c.skip fuel
        else if rest.head? = some '\'' then further '\'' (c.skips 2) fuel
        else some ([], false, c)
      else if char = '"' then some ([], false, c)
      else if char ≠ '\\' then further char c.skip fuel
      else if rest.head?.any isBreak then some ([], true, c.skip.passBreak)
      else do
        let (char, width) ← readEscape rest
        further char (c.skips (width + 1)) fuel
where
  further (char : Char) (c : Cursor) (fuel : Nat) : Option (List Char × Bool × Cursor) := do
    let (text, escaped, c) ← scanChunk single fuel c
    return (char :: text, escaped, c)

-- A quoted text after its first quote.
def scanQuotedFrom (single : Bool) : Nat → Cursor → Option (List Char × Cursor)
  | 0, _ => none
  | fuel + 1, c =>
    if c.atDocumentMark || c.rest.isEmpty then none
    else do
      let (text, escaped, c) ← scanChunk single (fuel + 1) c
      if c.isAt (if single then '\'' else '"') then return (text, c.skip)
      else
        let (g, c) ← scanGap 0 (fuel + 1) escaped c
        let (more, c) ← scanQuotedFrom single fuel c
        return (text ++ g.text escaped ++ more, c)

def scanQuoted (single : Bool) (c : Cursor) : Option (List Char × Cursor) :=
  scanQuotedFrom single (2 * c.fuel) c.skip

-- What becomes of the breaks at the end of a block.
inductive Chomping where
  | strip
  | clip
  | keep
deriving DecidableEq

def readChomping (c : Cursor) : Option (Chomping × Cursor) :=
  if c.isAt '+' then some (.keep, c.skip)
  else if c.isAt '-' then some (.strip, c.skip)
  else none

-- A digit for the margin of a block; it must not be zero.
def readMargin (c : Cursor) : Option (Nat × Cursor) :=
  match c.rest with
  | char :: _ =>
    if !isDigit char then some (0, c)
    else if char = '0' then none
    else some (digitsValue 10 [char], c.skip)
  | [] => some (0, c)

def readHints (c : Cursor) : Option (Chomping × Nat × Cursor) :=
  match readChomping c with
  | some (chomping, c) => do
    let (margin, c) ← readMargin c
    return (chomping, margin, c)
  | none => do
    let (margin, c) ← readMargin c
    match readChomping c with
    | some (chomping, c) => return (chomping, margin, c)
    | none => return (.clip, margin, c)

-- The empty lines at some place of a block, how far their blanks reach, and the place after them.
-- Without a margin all blanks are passed.
def scanEmptyLines (margin : Option Nat) : Nat → Nat → Cursor → Option (List Char × Nat × Cursor)
  | 0, reach, c => some ([], reach, c)
  | fuel + 1, reach, c =>
    let inMargin (c : Cursor) : Bool := margin.all fun m => c.column < m
    let blanks := c.rest.takeWhile fun char => char = ' '
    let width := match margin with
      | none => blanks.length
      | some m => min blanks.length (m - c.column)
    let c := c.skips width
    let reach := max reach c.column
    if inMargin c && c.isAt '\t' then none
    else if c.at? isBreak then do
      let (first, c) := c.takeBreak
      let (more, reach, c) ← scanEmptyLines margin fuel reach c
      return (first ++ more, reach, c)
    else some ([], reach, c)

-- The lines of a block. `lead` is the break before the line, `empty` are the empty lines after that
-- break, and `blank` tells whether the line before starts with a blank: then nothing is folded.
def scanLines (literal : Bool) (margin : Nat) :
    Nat → List Char → List Char → Bool → Cursor →
      Option (List Char × List Char × List Char × Cursor)
  | 0, lead, empty, _, c => some ([], lead, empty, c)
  | fuel + 1, lead, empty, blank, c =>
    if c.column ≠ margin || c.rest.isEmpty then some ([], lead, empty, c)
    else do
      let startsBlank := c.at? isBlank
      let folds := !literal && lead = ['\n'] && !blank && !startsBlank
      let before := if folds then (if empty = [] then [' '] else []) else lead
      let (text, c) := c.take fun char => !isBreak char
      let (lead, c) := c.takeBreak
      let (more, _, c) ← scanEmptyLines (some margin) c.fuel 0 c
      let (tail, lead, trailing, c) ← scanLines literal margin fuel lead more startsBlank c
      return (before ++ empty ++ text ++ tail, lead, trailing, c)

-- A block of lines after its indicator.
def scanBlock (literal : Bool) (indent : Int) (c : Cursor) : Option (List Char × Cursor) := do
  let (chomping, hint, c) ← readHints c.skip
  let c ← c.passLineRest
  let known := if hint = 0 then none else some ((max indent 0).toNat + hint)
  let (empty, reach, c) ← scanEmptyLines known c.fuel 0 c
  let margin := known.getD (max (max reach (indent + 1).toNat) 1)
  let (text, lead, trailing, c) ← scanLines literal margin c.fuel [] empty false c
  let ending := match chomping with
    | .strip => []
    | .clip => lead
    | .keep => lead ++ trailing
  return (text ++ ending, c)

end ApiDescription.Yaml
