import ApiDescription.Decimal.Literal
import ApiDescription.Reading.Node

namespace ApiDescription.Json

-- How many containers may stand inside of one another where their values are wanted.
def nestingLimit : Nat := 127

def isBlank (c : Char) : Bool := c = ' ' || c = '\n' || c = '\t' || c = '\r'

def skipBlanks (cs : List Char) : List Char := cs.dropWhile isBlank

def hexValue? (c : Char) : Option Nat :=
  if isDigit c then some (c.toNat - '0'.toNat)
  else if 'a' ≤ c ∧ c ≤ 'f' then some (c.toNat - 'a'.toNat + 10)
  else if 'A' ≤ c ∧ c ≤ 'F' then some (c.toNat - 'A'.toNat + 10)
  else none

def hexUnit? (a b c d : Char) : Option Nat := do
  let a ← hexValue? a
  let b ← hexValue? b
  let c ← hexValue? c
  let d ← hexValue? d
  return ((a * 16 + b) * 16 + c) * 16 + d

def simpleEscape? : Char → Option Char
  | '"' => some '"'
  | '\\' => some '\\'
  | '/' => some '/'
  | 'b' => some '\x08'
  | 'f' => some '\x0c'
  | 'n' => some '\n'
  | 'r' => some '\r'
  | 't' => some '\t'
  | _ => none

-- One unit of a text in which characters beyond 65535 can be written as two units.
inductive TextUnit where
  | char (c : Char)
  | high (unit : Nat)
  | low (unit : Nat)

def TextUnit.ofNat (n : Nat) : TextUnit :=
  if 0xD800 ≤ n ∧ n < 0xDC00 then high n
  else if 0xDC00 ≤ n ∧ n < 0xE000 then low n
  else char (Char.ofNat n)

-- The units up to the closing quote, and what follows it.
def scanUnits : List Char → Option (List TextUnit × List Char)
  | [] => none
  | '"' :: rest => some ([], rest)
  | '\\' :: 'u' :: a :: b :: c :: d :: rest => do
    let n ← hexUnit? a b c d
    let (units, rest) ← scanUnits rest
    return (TextUnit.ofNat n :: units, rest)
  | '\\' :: c :: rest => do
    let c ← simpleEscape? c
    let (units, rest) ← scanUnits rest
    return (.char c :: units, rest)
  | c :: rest =>
    if c.toNat < 32 ∨ c = '\\' then none
    else do
      let (units, rest) ← scanUnits rest
      return (.char c :: units, rest)

-- The text of the units; none if one half of a pair stands alone.
def joinUnits? : List TextUnit → Option (List Char)
  | [] => some []
  | .char c :: rest => (c :: ·) <$> joinUnits? rest
  | .high h :: .low l :: rest =>
    (Char.ofNat (0x10000 + (h - 0xD800) * 0x400 + (l - 0xDC00)) :: ·) <$> joinUnits? rest
  | _ => none

-- A text after its opening quote.
def readText (cs : List Char) : Option (Node × List Char) := do
  let (units, rest) ← scanUnits cs
  match joinUnits? units with
  | some text => return (.atom (.string (String.ofList text)), rest)
  | none => return (.flawed, rest)

-- A whole number without a needless zero in front.
def readWhole (cs : List Char) : Option (List Char × List Char) :=
  match cs with
  | '0' :: c :: rest => if isDigit c then none else some (['0'], c :: rest)
  | _ =>
    let ds := cs.takeWhile isDigit
    if ds = [] then none else some (ds, cs.dropWhile isDigit)

def readFraction : List Char → Option (List Char × List Char)
  | '.' :: rest =>
    let ds := rest.takeWhile isDigit
    if ds = [] then none else some (ds, rest.dropWhile isDigit)
  | rest => some ([], rest)

def doubleNode (d : Decimal) : Node :=
  match Double.ofDecimal? d with
  | some value => .atom (.number (.double value))
  | none => .flawed

-- Whole numbers stay integers as far as 64 bits go; the negative zero is a double.
def wholeNode (negative : Bool) (ds : List Char) : Node :=
  let size := digitsValue 10 ds
  let value : Int := if negative then -size else size
  match Number.ofInt? value, negative && size = 0 with
  | some n, false => .atom (.number n)
  | _, _ => doubleNode (.ofDigits negative ds [] 0)

def readNumber (negative : Bool) (cs : List Char) : Option (Node × List Char) := do
  let (whole, rest) ← readWhole cs
  let (fraction, rest) ← readFraction rest
  match rest with
  | 'e' :: rest | 'E' :: rest =>
    let (exponent, rest) ← Decimal.readExponent rest
    return (doubleNode (.ofDigits negative whole fraction exponent), rest)
  | rest =>
    if fraction = [] then return (wholeNode negative whole, rest)
    else return (doubleNode (.ofDigits negative whole fraction 0), rest)

-- A container that is nested too deep can only be passed over.
def contained (level : Nat) (node : Node) : Node := if nestingLimit < level then .flawed else node

mutual

-- A value at the head of a text. `level` counts the containers around it, and `fuel` is at least
-- the length of the text.
def readValue : Nat → Nat → List Char → Option (Node × List Char)
  | 0, _, _ => none
  | fuel + 1, level, cs =>
    match skipBlanks cs with
    | '"' :: rest => readText rest
    | '-' :: rest => readNumber true rest
    | 'n' :: 'u' :: 'l' :: 'l' :: rest => some (.atom .null, rest)
    | 't' :: 'r' :: 'u' :: 'e' :: rest => some (.atom (.bool true), rest)
    | 'f' :: 'a' :: 'l' :: 's' :: 'e' :: rest => some (.atom (.bool false), rest)
    | '[' :: rest => do
      let (items, rest) ← match skipBlanks rest with
        | ']' :: rest => pure ([], rest)
        | rest => readItems fuel (level + 1) rest
      return (contained (level + 1) (.list items), rest)
    | '\x7b' :: rest => do
      let (entries, rest) ← match skipBlanks rest with
        | '\x7d' :: rest => pure ([], rest)
        | rest => readEntries fuel (level + 1) rest
      return (contained (level + 1) (.map entries), rest)
    | rest => readNumber false rest

def readItems : Nat → Nat → List Char → Option (List Node × List Char)
  | 0, _, _ => none
  | fuel + 1, level, cs => do
    let (item, rest) ← readValue fuel level cs
    match skipBlanks rest with
    | ',' :: rest => do
      let (items, rest) ← readItems fuel level rest
      return (item :: items, rest)
    | ']' :: rest => return ([item], rest)
    | _ => none

def readEntries : Nat → Nat → List Char → Option (List (Node × Node) × List Char)
  | 0, _, _ => none
  | fuel + 1, level, cs =>
    match skipBlanks cs with
    | '"' :: rest => do
      let (key, rest) ← readText rest
      match skipBlanks rest with
      | ':' :: rest => do
        let (value, rest) ← readValue fuel level rest
        match skipBlanks rest with
        | ',' :: rest => do
          let (entries, rest) ← readEntries fuel level rest
          return ((key, value) :: entries, rest)
        | '\x7d' :: rest => return ([(key, value)], rest)
        | _ => none
      | _ => none
    | _ => none

end

-- The tree of a text that holds one value and nothing else. Parts that have no value, such as a
-- number beyond all doubles, are flawed.
def readTree? (text : String) : Option Node := do
  let cs := text.toList
  let (node, rest) ← readValue (2 * cs.length + 2) 0 cs
  if skipBlanks rest = [] then some node else none

def ofText? (text : String) : Option Json := do
  match (← readTree? text).asJson with
  | .ok value => some value
  | .error _ => none

end ApiDescription.Json

namespace ApiDescription.Node

mutual

-- Whether every part can be read.
def sound : Node → Bool
  | flawed => false
  | list items => soundItems items
  | map entries => soundEntries entries
  | marked node => sound node
  | _ => true

def soundItems : List Node → Bool
  | [] => true
  | item :: rest => sound item && soundItems rest

def soundEntries : List (Node × Node) → Bool
  | [] => true
  | (key, value) :: rest => sound key && sound value && soundEntries rest

end

end ApiDescription.Node
