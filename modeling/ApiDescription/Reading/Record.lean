import ApiDescription.Reading.Node
import ApiDescription.Reading.Parts

namespace ApiDescription

-- A named part of a record. Reading it puts it into a draft of the record.
structure Field (δ : Type) where
  name : String
  -- Whether the record cannot do without it.
  needed : Bool
  read : Node → δ → Except Fault δ

-- A record: a map of fields in any order, or a list of them in the declared order.
structure Record (δ : Type) where
  title : String
  fields : List (Field δ)

namespace Field

def required (name : String) (read : Node → Except Fault α) (put : α → δ → δ) : Field δ :=
  ⟨name, true, fun node draft => (put · draft) <$> read node⟩

def defaulted (name : String) (read : Node → Except Fault α) (put : α → δ → δ) : Field δ :=
  ⟨name, false, fun node draft => (put · draft) <$> read node⟩

def optional (name : String) (read : Node → Except Fault α) (put : Option α → δ → δ) : Field δ :=
  defaulted name (Node.asOption read) put

end Field

-- A field that a record cannot do without.
def demand (name : String) : Option α → Except Fault α
  | some value => .ok value
  | none => .error (.missingField name)

namespace Record

-- Of a record the fields are read, whole but for those in `inner`.
def parts (record : Record δ) (inner : Entries Parts := []) : Parts :=
  .fields (record.fields.map fun field => (field.name, (inner.get? field.name).getD .whole))

-- The field that a key names. In a buffered map the number of a field names it too.
def fieldFor (record : Record δ) (medium : Medium) (key : Node) : Except Fault (Option (Field δ)) :=
  match medium, key with
  | .buffered, .atom (.number (.integer index _)) =>
    if 0 ≤ index then .ok record.fields[index.toNat]? else .error .malformed
  | _, key => do
    let name ← key.asString
    return record.fields.find? fun field => field.name = name

-- Entries in their own order: the first one that cannot be read is the fault.
def readEntries (record : Record δ) (medium : Medium) :
    List (Node × Node) → List String → δ → Except Fault δ
  | [], _, draft => .ok draft
  | (key, value) :: rest, seen, draft => do
    match ← record.fieldFor medium key with
    | none => readEntries record medium rest seen draft
    | some field =>
      if field.name ∈ seen then .error (.duplicateField field.name)
      else
        let draft ← field.read value draft
        readEntries record medium rest (field.name :: seen) draft

-- What is wrong with a list that goes on after the last field.
def overlong (record : Record δ) (medium : Medium) (length : Nat) : Fault :=
  match medium with
  | .value => .tooLong length
  | .buffered => .surplus length record.fields.length
  | _ => .malformed

def readItems (record : Record δ) (medium : Medium) (length : Nat) :
    List (Field δ) → List Node → δ → Except Fault δ
  | [], [], draft => .ok draft
  | [], _ :: _, _ => .error (record.overlong medium length)
  | field :: fields, item :: items, draft => do
    let draft ← field.read item draft
    readItems record medium length fields items draft
  | field :: fields, [], draft =>
    if field.needed then
      .error (.tooShort (record.fields.length - fields.length - 1) record.title
        record.fields.length)
    else readItems record medium length fields [] draft

def read (record : Record δ) (medium : Medium) (blank : δ) : Node → Except Fault δ
  | .list items =>
    if medium = .yaml then .error .malformed
    else record.readItems medium items.length record.fields items blank
  | node => do
    record.readEntries medium (← node.asEntries (.record record.title)) [] blank

end Record

-- The variant that a text names.
def variantOf (known : List (String × α)) (name : String) : Except Fault α :=
  match Entries.get? known name with
  | some value => .ok value
  | none => .error (.unknownVariant name (Entries.keys known))

-- The variant that a node names, by a text or by its number.
def variantAt (known : List (String × α)) : Node → Except Fault α
  | .atom (.number (.integer index h)) =>
    if index < 0 then .error (.wrongType (.number (.integer index h)) .variant)
    else match known[index.toNat]? with
      | some (_, value) => .ok value
      | none => .error (.noVariantAt index.toNat known.length)
  | node => do variantOf known (← node.asString .variant)

-- A keyword: its text, or a map with the keyword as its only key and nothing as the value.
def keyword (known : List (String × α)) (medium : Medium) : Node → Except Fault α
  | .atom (.string name) => variantOf known name
  | .scalar s =>
    match s.variant with
    | some name => variantOf known name
    | none => .error .malformed
  | .map entries =>
    match medium, entries with
    | .yaml, _ => .error .malformed
    | .json, [] => .error .malformed
    | .json, (key, value) :: rest => do
      let chosen ← variantOf known (← key.asString .variant)
      match value, rest with
      | .atom .null, [] => return chosen
      | .atom .null, _ => .error .malformed
      | other, _ => .error (other.mismatch .unit)
    | .value, [(key, value)] => do
      let chosen ← variantOf known (← key.asString .variant)
      match value with
      | .atom .null => return chosen
      | other => .error (other.mismatch .unit)
    | .buffered, [(key, value)] => do
      let chosen ← variantAt known key
      match value with
      | .atom .null | .map [] => return chosen
      | other => .error (other.mismatch .unit)
    | _, _ => .error .notOneKey
  | other => .error (if medium = .json then .malformed else other.mismatch .keyword)

-- Takes the entry that says which variant a map is, and sets the others aside.
def splitTag (tag : String) (variant : Node → Except Fault κ) (medium : Medium) :
    List (Node × Node) → Option κ → Except Fault (κ × List (Node × Node))
  | [], none => .error (.missingField tag)
  | [], some chosen => .ok (chosen, [])
  | (key, value) :: rest, chosen => do
    match ← key.buffer medium, chosen with
    | .atom (.string name), chosen =>
      if name = tag then
        if chosen.isSome then .error (.duplicateField tag)
        else splitTag tag variant medium rest (some (← variant value))
      else
        let value ← value.buffer medium
        let (chosen, others) ← splitTag tag variant medium rest chosen
        return (chosen, (.atom (.string name), value) :: others)
    | key, chosen =>
      let value ← value.buffer medium
      let (chosen, others) ← splitTag tag variant medium rest chosen
      return (chosen, (key, value) :: others)

end ApiDescription
