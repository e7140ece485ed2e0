namespace ApiDescription.Path

-- A path in pieces: a colon followed by a name stands for a value, all else for itself.
inductive Piece where
  | char (c : Char)
  | placeholder (name : List Char)
deriving DecidableEq, Repr

def startsName (c : Char) : Bool :=
  ('a' ≤ c && c ≤ 'z') || ('A' ≤ c && c ≤ 'Z') || c = '_'

def continuesName (c : Char) : Bool := startsName c || ('0' ≤ c && c ≤ '9')

-- From left to right, every name as long as it can be.
def pieces : List Char → List Piece
  | [] => []
  | ':' :: first :: rest =>
    if startsName first then
      .placeholder (first :: rest.takeWhile continuesName) ::
        pieces (rest.dropWhile continuesName)
    else .char ':' :: pieces (first :: rest)
  | c :: rest => .char c :: pieces rest
termination_by path => path.length
decreasing_by
  all_goals simp only [List.length_cons]
  · have := (List.dropWhile_sublist continuesName (l := rest)).length_le
    omega
  · omega
  · omega

def Piece.name? : Piece → Option (List Char)
  | placeholder name => some name
  | char _ => none

-- The piece as it stands in a template.
def Piece.templated : Piece → List Char
  | char c => [c]
  | placeholder name => '\x7b' :: name ++ ['\x7d']

-- The piece as it is written in a path.
def Piece.written : Piece → List Char
  | char c => [c]
  | placeholder name => ':' :: name

def Piece.erased : Piece → List Char
  | char c => [c]
  | placeholder _ => []

def placeholderNames (path : List Char) : List (List Char) := (pieces path).filterMap Piece.name?

def templatedChars (path : List Char) : List Char := (pieces path).flatMap Piece.templated

def erasedChars (path : List Char) : List Char := (pieces path).flatMap Piece.erased

def endsPath (c : Char) : Bool := c = '?' || c = '#'

-- The part before the query and the fragment.
def routeChars (path : List Char) : List Char := path.takeWhile fun c => !endsPath c

def route (path : String) : String := String.ofList (routeChars path.toList)

-- What a path says: the key under which its operations are kept, and the names of its placeholders
-- in their order, those of the query and the fragment included.
structure Template where
  templated : String
  placeholders : List String
deriving DecidableEq, Repr

def analyze (path : String) : Template where
  templated := String.ofList (templatedChars (routeChars path.toList))
  placeholders := (placeholderNames path.toList).map String.ofList

end ApiDescription.Path
