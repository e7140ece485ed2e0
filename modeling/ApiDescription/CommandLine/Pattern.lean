import ApiDescription.Json.Reader

namespace ApiDescription.CommandLine.Pattern

-- Regular expressions, as far as it matters whether a text is one.

-- What one piece of an expression means: a character, or any of a family of them.
inductive Member where
  | char (c : Char)
  | family

-- The character whose number is written with so many hexadecimal digits.
def coded? (width : Nat) (text : List Char) : Option (Member × List Char) := do
  let ds ← (text.take width).mapM Json.hexValue?
  let n := ds.foldl (fun acc d => acc * 16 + d) 0
  if ds.length = width ∧ n.isValidChar then return (.char (Char.ofNat n), text.drop width)
  else none

-- What is meant after a backslash.
def escaped? : List Char → Option (Member × List Char)
  | [] => none
  | 'x' :: rest => coded? 2 rest
  | 'u' :: rest => coded? 4 rest
  | 'U' :: rest => coded? 8 rest
  | 'p' :: c :: rest | 'P' :: c :: rest =>
    if "CLMNPSZ".toList.contains c then some (.family, rest) else none
  | c :: rest =>
    if "dDsSwW".toList.contains c then some (.family, rest)
    else match [('a', '\x07'), ('f', '\x0c'), ('t', '\t'), ('n', '\n'), ('r', '\r'),
        ('v', '\x0b')].lookup c with
      | some meant => some (.char meant, rest)
      | none =>
        if c.toNat < 128 && !c.isAlphanum && c ≠ '<' && c ≠ '>' then some (.char c, rest) else none

def member? : List Char → Option (Member × List Char)
  | [] => none
  | '\\' :: rest => escaped? rest
  | c :: rest => some (.char c, rest)

-- The first characters of a set, which stand for themselves there.
def enterSet (text : List Char) : List Char :=
  let text := if text.head? = some '^' then text.drop 1 else text
  match text with
  | ']' :: rest => rest
  | text => text.dropWhile (· = '-')

def isRange : Member → Member → Bool
  | .char low, .char high => low ≤ high
  | _, _ => false

-- What follows a set of characters, which can have sets inside.
def afterSet? (level : Nat) : Nat → List Char → Option (List Char)
  | 0, _ | _, [] => none
  | fuel + 1, ']' :: rest => if level = 0 then some rest else afterSet? (level - 1) fuel rest
  | fuel + 1, '[' :: rest => afterSet? (level + 1) fuel (enterSet rest)
  | fuel + 1, '-' :: '-' :: rest => afterSet? level fuel rest
  | fuel + 1, text => do
    let (low, rest) ← member? text
    match rest with
    | '-' :: c :: more =>
      if c = ']' || c = '-' then afterSet? level fuel rest
      else
        let (high, rest) ← member? (c :: more)
        if isRange low high then afterSet? level fuel rest else none
    | rest => afterSet? level fuel rest

-- Switches before a group: each at most once, some of them perhaps after one minus sign.
def areSwitches (text : List Char) : Bool :=
  text.all (fun c => "imsuUxR-".toList.contains c && text.count c = 1) &&
    text.getLast? ≠ some '-'

def isGroupName (text : List Char) : Bool :=
  match text with
  | [] => false
  | c :: rest => (c.isAlpha || c = '_') &&
    rest.all fun c => c.isAlphanum || c = '_' || c = '.' || c = '[' || c = ']'

-- What follows the beginning of a group, and whether the group is still open there.
def enterGroup? (text : List Char) : Option (List Char × Bool) :=
  let named (rest : List Char) : Option (List Char × Bool) :=
    let name := rest.takeWhile (· ≠ '>')
    if isGroupName name && name.length < rest.length then some (rest.drop (name.length + 1), true)
    else none
  match text with
  | '?' :: 'P' :: '<' :: rest | '?' :: '<' :: rest => named rest
  | '?' :: rest =>
    let switches := rest.takeWhile fun c => c ≠ ':' && c ≠ ')'
    match areSwitches switches, rest.drop switches.length with
    | true, ':' :: rest => some (rest, true)
    | true, ')' :: rest => if switches = [] then none else some (rest, false)
    | _, _ => none
  | rest => some (rest, true)

-- `level` groups are open, and `repeatable` tells whether there is something that can be repeated.
def isValidFrom : Nat → Nat → Bool → List Char → Bool
  | 0, _, _, _ => false
  | _ + 1, level, _, [] => level = 0
  | fuel + 1, level, repeatable, c :: rest =>
    match c with
    | '(' => match enterGroup? rest with
      | some (rest, true) => isValidFrom fuel (level + 1) false rest
      | some (rest, false) => isValidFrom fuel level false rest
      | none => false
    | ')' => 0 < level && isValidFrom fuel (level - 1) true rest
    | '|' => isValidFrom fuel level false rest
    | '*' | '+' | '?' => repeatable && isValidFrom fuel level true rest
    | '\x7b' => false
    | '[' => match afterSet? 0 (rest.length + 1) (enterSet rest) with
      | some rest => isValidFrom fuel level true rest
      | none => false
    | '\\' => match rest with
      | 'A' :: rest | 'z' :: rest => isValidFrom fuel level true rest
      | rest => match escaped? rest with
        | some (_, rest) => isValidFrom fuel level true rest
        | none => false
    | _ => isValidFrom fuel level true rest

def isValid (text : List Char) : Bool := isValidFrom (text.length + 1) 0 false text

end ApiDescription.CommandLine.Pattern
