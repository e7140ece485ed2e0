import ApiDescription.Proofs.Reading.Record
import Mathlib.Data.List.Forall2
import Mathlib.Data.List.Pairwise

namespace ApiDescription

variable {α β δ : Type}

-- What is read, or that nothing is. Where the order does not matter, another fault may come first.

@[simp] theorem toOption_ok (x : α) : (Except.ok x : Except Fault α).toOption = some x := rfl

@[simp] theorem toOption_error (fault : Fault) :
    (Except.error fault : Except Fault α).toOption = none := rfl

@[simp] theorem toOption_bind (read : Except Fault α) (next : α → Except Fault β) :
    (read >>= next).toOption = read.toOption.bind fun x => (next x).toOption := by
  cases read <;> rfl

@[simp] theorem toOption_map (f : α → β) (read : Except Fault α) :
    (f <$> read).toOption = read.toOption.map f := by
  cases read <;> rfl

theorem toOption_eq_some_iff {read : Except Fault α} {x : α} :
    read.toOption = some x ↔ read = .ok x := by
  cases read <;> simp

-- Whether the first function reads from the first value what the second one reads from the second.
def ReadAlike (read other : Node → Except Fault α) (value replaced : Json) : Prop :=
  (read value.node).toOption = (other replaced.node).toOption

-- Lists with one item exchanged are related if both items are and every item is to itself.
theorem forall₂_exchange {R : α → α → Prop} (hrefl : ∀ x, R x x) {x y : α} (h : R x y)
    (before after : List α) : List.Forall₂ R (before ++ x :: after) (before ++ y :: after) :=
  List.rel_append (List.forall₂_same.mpr fun x _ => hrefl x)
    (.cons h (List.forall₂_same.mpr fun x _ => hrefl x))

namespace Node

variable {read other : Node → Except Fault α}

theorem readAlike_asList {items others : List Json}
    (h : List.Forall₂ (ReadAlike read other) items others) :
    ReadAlike (asList read) (asList other) (.array items) (.array others) := by
  show (List.mapM read (Json.nodes items)).toOption = (List.mapM other (Json.nodes others)).toOption
  induction h with
  | nil => rfl
  | cons hitem _ ih =>
    simp only [Json.nodes, List.mapM_cons, toOption_bind]
    rw [hitem, ih]

theorem readAlike_asMap {entries others : List (String × Json)}
    (h : List.Forall₂ (fun p q => p.1 = q.1 ∧ ReadAlike read other p.2 q.2) entries others) :
    ReadAlike (asMap read) (asMap other) (.object entries) (.object others) := by
  have hpairs : (readPairs read (Json.entryNodes entries)).toOption =
      (readPairs other (Json.entryNodes others)).toOption := by
    induction h with
    | nil => rfl
    | @cons p q _ _ hpair _ ih =>
      simp only [Json.entryNodes, readPairs, toOption_bind, hpair.1]
      rw [hpair.2, ih]
  show (Entries.ofList <$> readPairs read _).toOption =
    (Entries.ofList <$> readPairs other _).toOption
  rw [toOption_map, toOption_map, hpairs]

end Node

-- Two fields that can be read one after the other in either order.
def Field.Apart (field other : Field δ) : Prop :=
  ∀ (node node' : Node) (draft : δ), (field.read node draft >>= other.read node').toOption =
    (other.read node' draft >>= field.read node).toOption

instance : Std.Symm (Field.Apart (δ := δ)) :=
  ⟨fun _ _ h node node' draft => (h node' node draft).symm⟩

namespace Field

variable {name name' : String} {read : Node → Except Fault α} {read' : Node → Except Fault β}
  {field other : Field δ}

-- Whether a field can be done without does not matter here, so all of them are seen as fields that
-- may be left out.

@[simp] theorem required_apart_iff {put : α → δ → δ} :
    Apart (required name read put) other ↔ Apart (defaulted name read put) other := .rfl

@[simp] theorem apart_required_iff {put : α → δ → δ} :
    Apart field (required name read put) ↔ Apart field (defaulted name read put) := .rfl

@[simp] theorem optional_apart_iff {put : Option α → δ → δ} :
    Apart (optional name read put) other ↔ Apart (defaulted name (Node.asOption read) put) other :=
  .rfl

@[simp] theorem apart_optional_iff {put : Option α → δ → δ} :
    Apart field (optional name read put) ↔ Apart field (defaulted name (Node.asOption read) put) :=
  .rfl

-- Each of the fields goes to a place of its own in the draft.
@[simp] theorem apart_defaulted {put : α → δ → δ} {put' : β → δ → δ}
    (h : ∀ x y draft, put' y (put x draft) = put x (put' y draft)) :
    Apart (defaulted name read put) (defaulted name' read' put') := by
  intro node node' draft
  simp only [defaulted, toOption_bind, toOption_map]
  cases (read node).toOption <;> cases (read' node').toOption <;> simp [h]

end Field

namespace Record

def field? (record : Record δ) (name : String) : Option (Field δ) :=
  record.fields.find? fun field => field.name = name

theorem of_field? {record : Record δ} {name : String} {field : Field δ}
    (h : record.field? name = some field) : field ∈ record.fields ∧ field.name = name :=
  ⟨List.mem_of_find?_eq_some h, by simpa using List.find?_some h⟩

-- What the entries of an object make of a draft, if they can be read after the fields in `seen`.
def result? (record : Record δ) (medium : Medium) (entries : List (String × Json))
    (seen : List String) (draft : δ) : Option δ :=
  (record.readEntries medium (Json.entryNodes entries) seen draft).toOption

variable {record other : Record δ} {medium : Medium} {entries others : List (String × Json)}
  {seen : List String} {draft : δ}

theorem result?_unknown {name : String} (h : record.field? name = none) (value : Json) :
    record.result? medium ((name, value) :: entries) seen draft =
      record.result? medium entries seen draft := by
  rw [result?, Json.entryNodes, readEntries, fieldFor_string, toOption_bind]
  show Option.bind (some (record.field? name)) _ = _
  rw [h]
  rfl

theorem result?_known {name : String} {field : Field δ} (h : record.field? name = some field)
    (value : Json) :
    record.result? medium ((name, value) :: entries) seen draft =
      if name ∈ seen then none
      else (field.read value.node draft).toOption.bind fun next =>
        record.result? medium entries (name :: seen) next := by
  rw [result?, Json.entryNodes, readEntries, fieldFor_string, toOption_bind]
  show Option.bind (some (record.field? name)) _ = _
  rw [h]
  show Except.toOption (if field.name ∈ seen then _ else _) = _
  rw [(of_field? h).2]
  split
  · rfl
  · exact toOption_bind _ _

-- Only fields that come again matter of those that were seen.
theorem result?_congr_seen {seen' : List String}
    (h : ∀ entry ∈ entries, entry.1 ∈ seen ↔ entry.1 ∈ seen') :
    record.result? medium entries seen draft = record.result? medium entries seen' draft := by
  induction entries generalizing seen seen' draft with
  | nil => rfl
  | cons entry rest ih =>
    obtain ⟨name, value⟩ := entry
    rw [List.forall_mem_cons] at h
    cases hf : record.field? name with
    | none => rw [result?_unknown hf, result?_unknown hf, ih h.2]
    | some field =>
      have hrest : ∀ next, record.result? medium rest (name :: seen) next =
          record.result? medium rest (name :: seen') next := by
        intro next
        apply ih
        intro entry hm
        rw [List.mem_cons, List.mem_cons, h.2 entry hm]
      simp only [result?_known hf, h.1, hrest]

theorem result?_swap (hapart : record.fields.Pairwise Field.Apart) (first second : String × Json) :
    record.result? medium (first :: second :: entries) seen draft =
      record.result? medium (second :: first :: entries) seen draft := by
  obtain ⟨name, value⟩ := first
  obtain ⟨name', value'⟩ := second
  cases hf : record.field? name with
  | none =>
    cases hg : record.field? name' with
    | none => simp only [result?_unknown hf, result?_unknown hg]
    | some g => simp only [result?_unknown hf, result?_known hg]
  | some f =>
    cases hg : record.field? name' with
    | none => simp only [result?_unknown hg, result?_known hf]
    | some g =>
      simp only [result?_known hf, result?_known hg, List.mem_cons]
      by_cases hsame : name = name'
      · -- The second one of them comes again in both orders.
        subst hsame
        simp
      · have hne : f ≠ g := fun h => hsame ((of_field? hf).2.symm.trans (h ▸ (of_field? hg).2))
        have happart := hapart.forall (of_field? hf).1 (of_field? hg).1 hne
          value.node value'.node draft
        have hseen : ∀ next, record.result? medium entries (name' :: name :: seen) next =
            record.result? medium entries (name :: name' :: seen) next := by
          intro next
          apply result?_congr_seen
          intro entry _
          simp only [List.mem_cons, or_left_comm]
        simp only [toOption_bind] at happart
        by_cases hn : name ∈ seen <;> by_cases hn' : name' ∈ seen
        · simp [hn, hn']
        · simp [hn, hn']
        · simp [hn, hn']
        · simp only [hn, hn', hsame, Ne.symm hsame, or_self, if_false, hseen]
          rw [← Option.bind_assoc, happart, Option.bind_assoc]

theorem result?_perm (hapart : record.fields.Pairwise Field.Apart) (h : entries.Perm others) :
    record.result? medium entries seen draft = record.result? medium others seen draft := by
  induction h generalizing seen draft with
  | nil => rfl
  | cons entry _ ih =>
    cases hf : record.field? entry.1 with
    | none => rw [result?_unknown hf, result?_unknown hf, ih]
    | some field => simp only [result?_known hf, ih]
  | swap first second rest => exact result?_swap hapart second first
  | trans _ _ ih ih' => rw [ih, ih']

theorem field?_eq_none {name : String} (h : name ∉ record.fields.map Field.name) :
    record.field? name = none := by
  rw [Option.eq_none_iff_forall_ne_some]
  intro field hf
  exact h ((of_field? hf).2 ▸ List.mem_map_of_mem (of_field? hf).1)

-- A key can be left out that is no field.
theorem result?_without {key : String} (h : key ∉ record.fields.map Field.name) :
    record.result? medium (entries.filter fun entry => entry.1 != key) seen draft =
      record.result? medium entries seen draft := by
  induction entries generalizing seen draft with
  | nil => rfl
  | cons entry rest ih =>
    by_cases hkey : entry.1 = key
    · rw [List.filter_cons_of_neg (by simpa using hkey),
        result?_unknown (field?_eq_none (hkey ▸ h)), ih]
    · rw [List.filter_cons_of_pos (by simpa using hkey)]
      cases hf : record.field? entry.1 with
      | none => rw [result?_unknown hf, result?_unknown hf, ih]
      | some field => simp only [result?_known hf, ih]

-- A field that is read from null as if it were not there.
theorem result?_null {name : String} {field : Field δ} (hf : record.field? name = some field)
    (hnull : field.read (Json.null).node draft = .ok draft)
    (habsent : name ∉ Entries.keys entries) :
    record.result? medium ((name, .null) :: entries) [] draft =
      record.result? medium entries [] draft := by
  rw [result?_known hf, if_neg List.not_mem_nil, hnull]
  apply result?_congr_seen
  intro entry hm
  have hne : entry.1 ≠ name := fun he => habsent (he ▸ List.mem_map_of_mem hm)
  simp [hne]

-- Whether one field, if there is one, reads the first value as the other field reads the second.
def Follows (field field' : Option (Field δ)) (value replaced : Json) : Prop :=
  Option.Rel (fun f g => ∀ draft, (f.read value.node draft).toOption =
    (g.read replaced.node draft).toOption) field field'

theorem follows_self (field : Option (Field δ)) (value : Json) :
    Follows field field value value := by
  cases field with
  | none => exact .none
  | some field => exact .some fun _ => rfl

theorem follows_of_forall₂ {value replaced : Json}
    (h : List.Forall₂ (fun f g => f.name = g.name ∧ ∀ draft, (f.read value.node draft).toOption =
      (g.read replaced.node draft).toOption) record.fields other.fields) (name : String) :
    Follows (record.field? name) (other.field? name) value replaced := by
  rw [field?, field?]
  generalize record.fields = fields at h
  generalize other.fields = fields' at h
  induction h with
  | nil => exact .none
  | @cons f g _ _ hfield _ ih =>
    rw [List.find?_cons, List.find?_cons, ← hfield.1]
    cases decide (f.name = name) with
    | true => exact .some hfield.2
    | false => exact ih

theorem result?_congr (h : List.Forall₂ (fun p q => p.1 = q.1 ∧
      Follows (record.field? p.1) (other.field? q.1) p.2 q.2) entries others) :
    record.result? medium entries seen draft = other.result? medium others seen draft := by
  induction h generalizing seen draft with
  | nil => rfl
  | @cons p q rest rest' hpair _ ih =>
    obtain ⟨name, value⟩ := p
    obtain ⟨name', value'⟩ := q
    obtain ⟨rfl, hfollows⟩ := hpair
    generalize hf : record.field? name = field at hfollows
    generalize hg : other.field? name = field' at hfollows
    cases hfollows with
    | none => rw [result?_unknown hf, result?_unknown hg, ih]
    | some hread => simp only [result?_known hf, result?_known hg, hread, ih]

end Record

end ApiDescription
