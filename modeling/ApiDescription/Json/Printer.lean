import ApiDescription.Json.Value

namespace ApiDescription.Json

def hexDigit (n : Nat) : Char := Nat.digitChar (n % 16)

-- Quotes, backslashes and control characters below the space are escaped; the rest stands as it is.
def escape (c : Char) : List Char :=
  match c with
  | '"' => ['\\', '"']
  | '\\' => ['\\', '\\']
  | '\n' => ['\\', 'n']
  | '\r' => ['\\', 'r']
  | '\t' => ['\\', 't']
  | '\x08' => ['\\', 'b']
  | '\x0c' => ['\\', 'f']
  | c =>
    if c.toNat < 32 then ['\\', 'u', '0', '0', hexDigit (c.toNat / 16), hexDigit c.toNat] else [c]

def quote (text : String) : String := String.ofList ('"' :: text.toList.flatMap escape ++ ['"'])

def scalarText : Json → String
  | null => "null"
  | bool true => "true"
  | bool false => "false"
  | number n => n.text
  | string s => quote s
  | array _ => "[]"
  | object _ => "\x7b\x7d"

mutual

-- The text without any white space.
def compact : Json → String
  | array items => "[" ++ ",".intercalate (compactItems items) ++ "]"
  | object entries => "\x7b" ++ ",".intercalate (compactEntries entries) ++ "\x7d"
  | scalar => scalarText scalar

def compactItems : List Json → List String
  | [] => []
  | item :: rest => compact item :: compactItems rest

def compactEntries : List (String × Json) → List String
  | [] => []
  | (key, value) :: rest => (quote key ++ ":" ++ compact value) :: compactEntries rest

end

-- A container over several lines, its members indented by two columns more than its brackets.
def block (left right margin : String) (members : List String) : String :=
  left ++ ",".intercalate (members.map fun m => "\n" ++ margin ++ "  " ++ m) ++
    "\n" ++ margin ++ right

mutual

-- The text with one member a line; an empty container keeps its brackets together.
def pretty (margin : String) : Json → String
  | array items =>
    if items.isEmpty then "[]" else block "[" "]" margin (prettyItems (margin ++ "  ") items)
  | object entries =>
    if entries.isEmpty then "\x7b\x7d"
    else block "\x7b" "\x7d" margin (prettyEntries (margin ++ "  ") entries)
  | scalar => scalarText scalar

def prettyItems (margin : String) : List Json → List String
  | [] => []
  | item :: rest => pretty margin item :: prettyItems margin rest

def prettyEntries (margin : String) : List (String × Json) → List String
  | [] => []
  | (key, value) :: rest => (quote key ++ ": " ++ pretty margin value) :: prettyEntries margin rest

end

def prettyText (value : Json) : String := pretty "" value

end ApiDescription.Json
