import ApiDescription.Yaml.Style

namespace ApiDescription.Yaml

def spaces (n : Nat) : List Char := List.replicate n ' '

-- Between single quotes: a quote is doubled, and after a break the text goes on at the margin.
-- `broken` says that a break came right before.
def singleQuoted (indent : Nat) (broken : Bool) : List Char → List Char
  | [] => if broken then spaces indent else []
  | c :: rest =>
    if isBreak c then
      (if !broken && c = '\n' then ['\n', c] else [c]) ++ singleQuoted indent true rest
    else
      (if broken then spaces indent else []) ++ (if c = '\'' then ['\'', c] else [c]) ++
        singleQuoted indent false rest

def upperHex (width n : Nat) : List Char :=
  (List.range width).reverse.map fun i => (Nat.digitChar (n / Nat.pow 16 i % 16)).toUpper

def escapeLetter? (c : Char) : Option Char :=
  match c.toNat with
  | 0 => some '0'
  | 7 => some 'a'
  | 8 => some 'b'
  | 9 => some 't'
  | 10 => some 'n'
  | 11 => some 'v'
  | 12 => some 'f'
  | 13 => some 'r'
  | 27 => some 'e'
  | 34 => some '"'
  | 92 => some '\\'
  | 0x85 => some 'N'
  | 0x2028 => some 'L'
  | 0x2029 => some 'P'
  | _ => none

def escaped (c : Char) : List Char :=
  let n := c.toNat
  match escapeLetter? c with
  | some letter => ['\\', letter]
  | none =>
    if isPrintable c then [c]
    else if n ≤ 0xFF then '\\' :: 'x' :: upperHex 2 n
    else if n ≤ 0xFFFF then '\\' :: 'u' :: upperHex 4 n
    else '\\' :: 'U' :: upperHex 8 n

-- The lines of a block; empty ones have no margin. `fresh` says that a line starts here.
def literalLines (indent : Nat) (fresh : Bool) : List Char → List Char
  | [] => []
  | c :: rest =>
    if isBreak c then c :: literalLines indent true rest
    else (if fresh then spaces indent else []) ++ c :: literalLines indent false rest

-- What has to be said about a block: its margin if the text starts with white space, and what
-- becomes of the breaks at its end.
def literalHints (text : List Char) : List Char :=
  let margin := match text with
    | c :: _ => if c = ' ' || isBreak c then ['2'] else []
    | [] => []
  let ending := match text.reverse with
    | [] => ['-']
    | [c] => if isBreak c then ['+'] else ['-']
    | c :: d :: _ => if !isBreak c then ['-'] else if isBreak d then ['+'] else []
  margin ++ ending

-- A text whose further lines stand at the margin.
def textScalar (indent : Nat) (text : List Char) : List Char :=
  match styleOf text with
  | .plain => text
  | .single => '\'' :: singleQuoted indent false text ++ ['\'']
  | .double => '"' :: text.flatMap escaped ++ ['"']
  | .literal => '|' :: literalHints text ++ '\n' :: literalLines indent true text

def scalar (indent : Nat) : Json → List Char
  | .null => "null".toList
  | .bool value => (toString value).toList
  | .number n => (n.textWith []).toList
  | .string text => textScalar indent text.toList
  | .array _ => "[]".toList
  | .object _ => "\x7b\x7d".toList

-- Ends a line, unless it is ended.
def line (text : List Char) : List Char := if endsWith isBreak text then text else text ++ ['\n']

-- Whether a key can stand before its colon on one line.
def isSimpleKey (key : String) : Bool := !isMultiline key.toList && key.utf8ByteSize ≤ 128

def keyText (indent : Nat) (key : String) : List Char :=
  if isSimpleKey key then textScalar (indent + 2) key.toList ++ [':']
  else "? ".toList ++ line (textScalar (indent + 2) key.toList) ++ spaces indent ++ [':']

mutual

-- The value after a key that stands on its line: lists start at the margin of the key.
def afterKey (indent : Nat) : Json → List Char
  | .array items =>
    if items.isEmpty then " []\n".toList else '\n' :: itemLines indent (spaces indent) items
  | .object entries =>
    if entries.isEmpty then " \x7b\x7d\n".toList
    else '\n' :: entryLines (indent + 2) (spaces (indent + 2)) entries
  | value => ' ' :: line (scalar (indent + 2) value)

-- The value after a dash or after a colon at the start of a line.
def afterMark (indent : Nat) : Json → List Char
  | .array items =>
    if items.isEmpty then " []\n".toList else ' ' :: itemLines (indent + 2) [] items
  | .object entries =>
    if entries.isEmpty then " \x7b\x7d\n".toList else ' ' :: entryLines (indent + 2) [] entries
  | value => ' ' :: line (scalar (indent + 2) value)

-- The first item stands after `lead`, the others at the margin.
def itemLines (indent : Nat) (lead : List Char) : List Json → List Char
  | [] => []
  | item :: rest => lead ++ '-' :: afterMark indent item ++ itemLines indent (spaces indent) rest

def entryLines (indent : Nat) (lead : List Char) : List (String × Json) → List Char
  | [] => []
  | (key, value) :: rest =>
    lead ++ keyText indent key ++
      (if isSimpleKey key then afterKey indent value else afterMark indent value) ++
      entryLines indent (spaces indent) rest

end

-- The text of a document in blocks of lines.
def print (value : Json) : String :=
  String.ofList <| match value with
    | .array (item :: rest) => itemLines 0 [] (item :: rest)
    | .object (entry :: rest) => entryLines 0 [] (entry :: rest)
    | other => line (scalar 2 other)

end ApiDescription.Yaml
