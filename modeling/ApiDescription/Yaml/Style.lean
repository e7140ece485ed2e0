import ApiDescription.Yaml.Character
import ApiDescription.Yaml.Plain

namespace ApiDescription.Yaml

-- The ways to write a text.
inductive Style where
  | plain
  | single
  | double
  | literal
deriving DecidableEq, Repr

-- Whether the blanks and breaks of a text are apart from each other in one of the two orders.
def hasPair (first second : Char → Bool) : List Char → Bool
  | a :: b :: rest => (first a && second b) || hasPair first second (b :: rest)
  | _ => false

def isSpace (c : Char) : Bool := c = ' '

def endsWith (p : Char → Bool) (text : List Char) : Bool := text.getLast?.any p

-- Characters that would mean something else at the start of an unquoted text.
def isLeadingMark (c : Char) : Bool := "#,[]\x7b\x7d&*!|>'\"%@`".toList.contains c

def startsLikeMark : List Char → Bool
  | '-' :: '-' :: '-' :: _ => true
  | '.' :: '.' :: '.' :: _ => true
  | c :: rest => isLeadingMark c || ((c = '?' || c = ':' || c = '-') && startsBlank rest)
  | [] => false

-- Whether a key or a comment would start inside of the text. `spaced` says whether white space
-- comes before it.
def hasInnerMark (spaced : Bool) : List Char → Bool
  | [] => false
  | c :: rest =>
    (c = ':' && startsBlank rest) || (c = '#' && spaced) ||
      hasInnerMark (isBlank c || isBreak c) rest

def isMultiline (text : List Char) : Bool := text.any isBreak

def allowsPlain (text : List Char) : Bool :=
  !startsLikeMark text && !hasInnerMark false text && text.all isPrintable && !isMultiline text &&
    !startsWith isSpace text && !endsWith isSpace text
where
  startsWith (p : Char → Bool) (text : List Char) : Bool := text.head?.any p

def allowsSingle (text : List Char) : Bool :=
  text.all isPrintable && !hasPair isBreak isSpace text && !hasPair isSpace isBreak text

def allowsLiteral (text : List Char) : Bool :=
  text.all isPrintable && !endsWith isSpace text && !hasPair isSpace isBreak text

-- A text of several lines is written as a block of lines, one that reads as something else is
-- quoted, and where a style cannot express the text the next one takes its place.
def styleOf (text : List Char) : Style :=
  if text.contains '\n' then
    if allowsLiteral text then .literal else .double
  else if readsAsText text && allowsPlain text then .plain
  else if allowsSingle text then .single
  else .double

end ApiDescription.Yaml
