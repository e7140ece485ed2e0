import ApiDescription.Entries
import ApiDescription.Json.Number

namespace ApiDescription

inductive Json where
  | null
  | bool (value : Bool)
  | number (value : Number)
  | string (value : String)
  | array (items : List Json)
  | object (entries : List (String × Json))
deriving Repr, Inhabited

namespace Json

def strings (values : List String) : Json := array (values.map string)

-- An object with the given entries and nothing for an absent one.
def present (entries : List (Option (String × Json))) : Json := object (entries.filterMap id)

def field (name : String) (value : Json) : Option (String × Json) := some (name, value)

def field? (name : String) (value : Option α) (render : α → Json) : Option (String × Json) :=
  value.map fun v => (name, render v)

def get? : Json → String → Option Json
  | object entries, key => Entries.get? entries key
  | _, _ => none

mutual

-- Equality that does not look at the order of keys.
def same : Json → Json → Bool
  | null, null => true
  | bool a, bool b => a = b
  | number a, number b => a.same b
  | string a, string b => a = b
  | array as, array bs => sameItems as bs
  | object as, object bs => as.length = bs.length && sameEntries as bs
  | _, _ => false

def sameItems : List Json → List Json → Bool
  | [], [] => true
  | a :: as, b :: bs => same a b && sameItems as bs
  | _, _ => false

def sameEntries : List (String × Json) → List (String × Json) → Bool
  | [], _ => true
  | (key, a) :: as, bs =>
    (match Entries.get? bs key with
      | some b => same a b
      | none => false) && sameEntries as bs

end

end Json

end ApiDescription
