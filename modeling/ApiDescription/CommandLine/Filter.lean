import ApiDescription.CommandLine.Pattern
import ApiDescription.Decimal.Literal
import ApiDescription.Document.Event
import ApiDescription.Text.Alphanumeric
import ApiDescription.Text.Blank
import ApiDescription.Text.Split

namespace ApiDescription.CommandLine

-- From which level on events are shown.
inductive Threshold where
  | off
  | error
  | warning
  | info
  | debug
  | trace
deriving DecidableEq, Repr

def Threshold.shows : Threshold → Level → Bool
  | off, _ | error, _ => false
  | warning, level => level = .warning
  | info, level => level ≠ .debug
  | debug, _ | trace, _ => true

-- By name, in any case, or by number.
def Threshold.ofText? (text : List Char) : Option Threshold :=
  let known : List (String × Threshold) :=
    [("off", .off), ("error", .error), ("warn", .warning), ("info", .info), ("debug", .debug),
      ("trace", .trace)]
  let digits := if text.head? = some '+' then text.drop 1 else text
  if digits ≠ [] ∧ digits.all isDigit then (known[digitsValue 10 digits]?).map Prod.snd
  else known.lookup (String.ofList (text.map Char.toLower))

-- A threshold for the events of one teller, or of all, that have a field, if one is named.
structure Rule where
  teller : Option (List Char) := none
  field : Option (List Char) := none
  threshold : Threshold
deriving DecidableEq, Repr

-- Of the rules for an event the most special one counts, and of those the last.
abbrev Filter := List Rule

namespace Rule

-- The name of a teller also stands for all that begin with it.
def applies (rule : Rule) (event : Event) : Bool :=
  rule.teller.all (·.isPrefixOf event.teller.toList) &&
    rule.field.all fun name => event.hasField (String.ofList name)

-- Whether another rule is more special: by a longer name of the teller, or else by the field.
def yields (rule other : Rule) : Bool :=
  let length (r : Rule) : Nat := (r.teller.map List.length).getD 0
  let field (r : Rule) : List Char := r.field.getD []
  length rule < length other || (length rule = length other && field rule < field other)

-- Whether a rule can start with the character.
def startsTeller (c : Char) : Bool := c = '-' || c = ':' || c = '_' || Text.isAlphanumeric c

-- A field can be compared with a number, or with a pattern.
def isValue (text : List Char) : Bool := (Decimal.ofText? text).isSome || Pattern.isValid text

-- What stands in brackets: the field that events must have. Spans and values of fields can be asked
-- for too, but there are no spans, so that no event is meant.
inductive Brackets where
  | field (name : List Char)
  | span

-- The brackets, after the first of them, and what follows them.
def brackets? (text : List Char) : Option (Brackets × List Char) :=
  let span := text.takeWhile fun c => c ≠ ']' && c ≠ '\x7b'
  match text.drop span.length with
  | ']' :: rest => some (.span, rest)
  | '\x7b' :: rest =>
    let field := rest.takeWhile (· ≠ '\x7d')
    let name := field.takeWhile (· ≠ '=')
    let value := (field.drop (name.length + 1)).takeWhile (· ≠ '=')
    match rest.drop field.length with
    | '\x7d' :: ']' :: rest =>
      if field = [] || !isValue value then none
      else if span = [] && name = field then some (.field name, rest)
      else some (.span, rest)
    | _ => none
  | _ => none

def thresholdAfter? (text : List Char) : Option Threshold :=
  if text = [] then some .trace else Threshold.ofText? text

-- The threshold after brackets, if there is one.
def thresholdAfterBrackets? : List Char → Option Threshold
  | '=' :: level => thresholdAfter? level
  | rest => if rest.all Text.isSpace then some .trace else none

-- A rule that starts with white space means no event, and cannot have a threshold.
def rules? (spaced : Bool) (text : List Char) : Option Filter :=
  let name := text.takeWhile fun c => c ≠ '=' && c ≠ '['
  let teller := if name = [] then none else some name
  match text.drop name.length with
  | [] =>
    let rule : Rule := match Threshold.ofText? name with
      | some threshold => { threshold }
      | none => { teller, threshold := .trace }
    some (if spaced then [] else [rule])
  | '=' :: level => do
    let threshold ← thresholdAfter? level
    if spaced then none else return [{ teller, threshold }]
  | _ :: rest => do
    let (inside, rest) ← brackets? rest
    let threshold ← thresholdAfterBrackets? rest
    match spaced, inside with
    | true, _ => if rest.head? = some '=' then none else return []
    | false, .field name => return [{ teller, field := some name, threshold }]
    | false, .span => return []

-- A threshold, a teller, or a teller and a field in brackets with a threshold after an equals sign.
def ofText? (text : List Char) : Option Filter :=
  match text.dropWhile Text.isSpace with
  | [] => none
  | first :: rest =>
    if first = '[' || startsTeller first then
      rules? (text.length ≠ rest.length + 1) (first :: rest)
    else none

end Rule

namespace Filter

-- Rules apart by commas; none if one of them is no rule.
def ofText? (text : String) : Option Filter := do
  let rules ← ((Text.split ',' text.toList).filter (· ≠ [])).mapM Rule.ofText?
  return rules.flatten

def preferred (best : Option Rule) (rule : Rule) : Option Rule :=
  match best with
  | some other => if rule.yields other then best else some rule
  | none => some rule

def shows (filter : Filter) (event : Event) : Bool :=
  match (filter.filter (Rule.applies · event)).foldl preferred none with
  | some rule => rule.threshold.shows event.level
  | none => false

def warnings : Filter := [{ threshold := .warning }]

-- The filter that was asked for so many times to tell more.
def ofVerbosity : Nat → Filter
  | 0 => warnings
  | 1 => [{ threshold := .info }]
  | _ => [{ threshold := .debug }]

-- A filter from outside comes before the verbosity, but only a valid one.
def chosen (given : Option String) (verbosity : Nat) : Filter :=
  match given with
  | some text => (ofText? text).getD warnings
  | none => ofVerbosity verbosity

end Filter

end ApiDescription.CommandLine
