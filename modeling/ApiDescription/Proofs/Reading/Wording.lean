import ApiDescription.Proofs.Reading.Result
import ApiDescription.Schema.Reading
import Mathlib.Data.List.Nodup

namespace ApiDescription

-- What an object can describe whose keys have a meaning.
inductive Subject where
  | endpoint
  | parameter
  | error
  | bound
  | schema

-- Where such objects are in a value: nowhere, or the value is one itself, or its items are, or what
-- stands under its keys, which are names of any kind then.
inductive Content where
  | data
  | one (subject : Subject)
  | items (subject : Subject)
  | values (subject : Subject)

-- A key with a meaning.
structure Slot where
  name : String
  content : Content := .data
  -- Whether null says that there is nothing.
  optional : Bool := false

def Slot.option (name : String) (content : Content := .data) : Slot := ⟨name, content, true⟩

namespace Schema

-- The keys of one kind of node.
def Kind.slots : Kind → List Slot
  | .string => [.option "format", .option "minLength", .option "maxLength", .option "pattern"]
  | .number => [{ name := "integer" }, .option "minimum" (.one .bound),
      .option "maximum" (.one .bound), .option "multipleOf"]
  | .literal => [{ name := "value" }]
  | .enumeration => [{ name := "values" }]
  | .array => [{ name := "items", content := .one .schema }, .option "minItems",
      .option "maxItems"]
  | .object => [{ name := "properties", content := .values .schema }, { name := "unknownKeys" }]
  | .record => [{ name := "values", content := .one .schema }]
  | .union => [{ name := "options", content := .items .schema }]
  | .optional | .nullable => [{ name := "inner", content := .one .schema }]
  | .default => [{ name := "inner", content := .one .schema }, { name := "value" }]
  | .refine => [{ name := "inner", content := .one .schema }, .option "message"]
  | .boolean | .null | .void | .any => []

-- The kind that a node says it is of.
def kindOf? (entries : List (String × Json)) : Option Kind := do
  (variantAt Kind.names (← Entries.get? entries "type").node).toOption

def slots (kind : Option Kind) : List Slot :=
  { name := "type" } :: .option "description" :: (kind.map Kind.slots).getD []

end Schema

-- The keys of an object. Those of a schema depend on its kind.
def Subject.slots (entries : List (String × Json)) : Subject → List Slot
  | endpoint => [{ name := "method" }, { name := "path" }, { name := "alias" },
      .option "description", { name := "parameters", content := .items .parameter },
      { name := "response", content := .one .schema },
      { name := "errors", content := .items .error }, .option "status"]
  | parameter => [{ name := "name" }, { name := "type" }, .option "description",
      { name := "schema", content := .one .schema }]
  | error => [{ name := "status" }, .option "description",
      { name := "schema", content := .one .schema }]
  | bound => [{ name := "value" }, { name := "exclusive" }]
  | schema => Schema.slots (Schema.kindOf? entries)

mutual

-- One change in how the entries of an object are written, or what stands in one of them, at any
-- depth. What is new comes first; with a change of the order it comes anywhere.
inductive RewordedEntries : List Slot → List (String × Json) → List (String × Json) → Prop where
  | order {slots : List Slot} {entries others : List (String × Json)} (h : entries.Perm others) :
    RewordedEntries slots entries others
  | unknown {slots : List Slot} (entries : List (String × Json)) {key : String} (value : Json)
    (h : ∀ slot ∈ slots, slot.name ≠ key) : RewordedEntries slots entries ((key, value) :: entries)
  | null {slots : List Slot} {entries : List (String × Json)} {slot : Slot} (hm : slot ∈ slots)
    (hoptional : slot.optional = true) (habsent : slot.name ∉ Entries.keys entries) :
    RewordedEntries slots entries ((slot.name, .null) :: entries)
  | inside {slots : List Slot} (before after : List (String × Json)) {slot : Slot}
    {value other : Json} (hm : slot ∈ slots) (h : Reworded slot.content value other) :
    RewordedEntries slots (before ++ (slot.name, value) :: after)
      (before ++ (slot.name, other) :: after)

-- One change in how a value is written. Instead of an object there can be a list of its fields in
-- the declared order, which has no keys, but objects inside.
inductive Reworded : Content → Json → Json → Prop where
  | object (subject : Subject) {entries others : List (String × Json)}
    (h : RewordedEntries (subject.slots entries) entries others) :
    Reworded (.one subject) (.object entries) (.object others)
  | listed {subject : Subject} {before : List Json} (after : List Json) {slot : Slot}
    {value other : Json} (hslot : (subject.slots [])[before.length]? = some slot)
    (h : Reworded slot.content value other) :
    Reworded (.one subject) (.array (before ++ value :: after)) (.array (before ++ other :: after))
  | item {subject : Subject} (before after : List Json) {value other : Json}
    (h : Reworded (.one subject) value other) :
    Reworded (.items subject) (.array (before ++ value :: after))
      (.array (before ++ other :: after))
  | value {subject : Subject} (before after : List (String × Json)) (key : String)
    {value other : Json} (h : Reworded (.one subject) value other) :
    Reworded (.values subject) (.object (before ++ (key, value) :: after))
      (.object (before ++ (key, other) :: after))

end

variable {α β δ : Type}

-- Whether a function reads the same before and after each change.
def Overlooks (content : Content) (read : Node → Except Fault α) : Prop :=
  ∀ ⦃value other : Json⦄, Reworded content value other → ReadAlike read read value other

namespace Overlooks

variable {content : Content} {subject : Subject} {read : Node → Except Fault α}

theorem data (read : Node → Except Fault α) : Overlooks .data read := nofun

theorem bind (h : Overlooks content read) (next : α → Except Fault β) :
    Overlooks content fun node => read node >>= next := by
  intro value other hreworded
  rw [ReadAlike, toOption_bind, toOption_bind, h hreworded]

theorem map (h : Overlooks content read) (f : α → β) :
    Overlooks content fun node => f <$> read node := by
  intro value other hreworded
  rw [ReadAlike, toOption_map, toOption_map, h hreworded]

theorem items (h : Overlooks (.one subject) read) :
    Overlooks (.items subject) (Node.asList read) := by
  intro value other hreworded
  cases hreworded with
  | item before after hitem =>
    exact Node.readAlike_asList
      (forall₂_exchange (R := ReadAlike read read) (fun _ => rfl) (h hitem) before after)

theorem values (h : Overlooks (.one subject) read) :
    Overlooks (.values subject) (Node.asMap read) := by
  intro value other hreworded
  cases hreworded with
  | value before after key hvalue =>
    exact Node.readAlike_asMap
      (forall₂_exchange (fun _ => ⟨rfl, rfl⟩) ⟨rfl, h hvalue⟩ before after)

theorem option (h : Overlooks content read) : Overlooks content (Node.asOption read) := by
  intro value other hreworded
  have hne : value ≠ .null ∧ other ≠ .null := by
    cases hreworded <;> exact ⟨nofun, nofun⟩
  rw [ReadAlike, Node.asOption_node_of_ne_null read hne.1,
    Node.asOption_node_of_ne_null read hne.2,
    toOption_map, toOption_map, h hreworded]

end Overlooks

-- Whether a slot is right about a field. `blank` is the draft of which nothing was read yet.
structure Describes (blank : δ) (slot : Slot) (field : Field δ) : Prop where
  name : field.name = slot.name
  null : slot.optional = true → field.read Json.null.node blank = .ok blank
  inside : ∀ draft, Overlooks slot.content fun node => field.read node draft

namespace Describes

variable {blank : δ} {content : Content} {read : Node → Except Fault α}

theorem required (name : String) {put : α → δ → δ} (h : Overlooks content read) :
    Describes blank ⟨name, content, false⟩ (.required name read put) :=
  ⟨rfl, nofun, fun _ => h.map _⟩

theorem defaulted (name : String) {put : α → δ → δ} (h : Overlooks content read) :
    Describes blank ⟨name, content, false⟩ (.defaulted name read put) :=
  ⟨rfl, nofun, fun _ => h.map _⟩

theorem option (name : String) {put : Option α → δ → δ} (hnone : put none blank = blank)
    (h : Overlooks content read) :
    Describes blank (.option name content) (.optional name read put) :=
  ⟨rfl, fun _ => congrArg Except.ok hnone, fun _ => h.option.map _⟩

end Describes

namespace Record

variable {record : Record δ} {blank : δ} {slots used : List Slot}

theorem exists_slot {fields : List (Field δ)} (hfields : List.Forall₂ (Describes blank) used fields)
    {field : Field δ} (hm : field ∈ fields) : ∃ slot ∈ used, Describes blank slot field := by
  induction hfields with
  | nil => cases hm
  | cons hdescribes _ ih =>
    rcases List.mem_cons.mp hm with rfl | hm
    · exact ⟨_, .head _, hdescribes⟩
    · obtain ⟨slot, hslot, hown⟩ := ih hm
      exact ⟨slot, .tail _ hslot, hown⟩

theorem describes_of_field? (hfields : List.Forall₂ (Describes blank) used record.fields)
    (hused : used ⊆ slots) (hnames : (slots.map Slot.name).Nodup) {slot : Slot} (hm : slot ∈ slots)
    {field : Field δ} (hf : record.field? slot.name = some field) : Describes blank slot field := by
  obtain ⟨hfield, hname⟩ := of_field? hf
  obtain ⟨own, hown, hdescribes⟩ := exists_slot hfields hfield
  have hsame : own = slot :=
    List.inj_on_of_nodup_map hnames (hused hown) hm (hdescribes.name.symm.trans hname)
  exact hsame ▸ hdescribes

-- Only some of the slots have to be for fields of the record. What happens to the others, it does
-- not see.
theorem result?_reworded (hfields : List.Forall₂ (Describes blank) used record.fields)
    (hused : used ⊆ slots) (hnames : (slots.map Slot.name).Nodup)
    (hapart : record.fields.Pairwise Field.Apart) (medium : Medium)
    {entries others : List (String × Json)} (h : RewordedEntries slots entries others) :
    record.result? medium entries [] blank = record.result? medium others [] blank := by
  cases h with
  | order hperm => exact result?_perm hapart hperm
  | @unknown _ _ key value hkey =>
    have hnone : key ∉ record.fields.map Field.name := by
      rintro hm
      obtain ⟨field, hfield, rfl⟩ := List.mem_map.mp hm
      obtain ⟨slot, hslot, hdescribes⟩ := exists_slot hfields hfield
      exact hkey slot (hused hslot) hdescribes.name.symm
    rw [result?_unknown (field?_eq_none hnone)]
  | @null _ _ slot hm hoptional habsent =>
    cases hf : record.field? slot.name with
    | none => rw [result?_unknown hf]
    | some field =>
      have hdescribes := describes_of_field? hfields hused hnames hm hf
      rw [result?_null hf (hdescribes.null hoptional) habsent]
  | @inside _ before after slot value other hm hreworded =>
    apply result?_congr
    apply forall₂_exchange (fun entry => ⟨rfl, follows_self _ entry.2⟩)
    refine ⟨rfl, ?_⟩
    show Follows (record.field? slot.name) (record.field? slot.name) value other
    cases hf : record.field? slot.name with
    | none => exact .none
    | some field =>
      have hdescribes := describes_of_field? hfields hused hnames hm hf
      exact .some fun draft => hdescribes.inside draft hreworded

theorem readItems_reworded {medium : Medium} {length : Nat} {fields : List (Field δ)}
    (hfields : List.Forall₂ (Describes blank) slots fields) {before after : List Json}
    {slot : Slot} (hslot : slots[before.length]? = some slot) {value other : Json}
    (h : Reworded slot.content value other) (draft : δ) :
    (record.readItems medium length fields (Json.nodes (before ++ value :: after)) draft).toOption =
      (record.readItems medium length fields (Json.nodes (before ++ other :: after))
        draft).toOption := by
  induction hfields generalizing before draft with
  | nil => cases hslot
  | @cons first field _ _ hdescribes _ ih =>
    cases before with
    | nil =>
      cases hslot
      simp only [List.nil_append, Json.nodes, readItems, toOption_bind]
      rw [hdescribes.inside draft h]
    | cons item before =>
      simp only [List.cons_append, Json.nodes, readItems, toOption_bind, ih hslot]

-- All slots are for the fields of the record, one after the other.
theorem overlooks {subject : Subject} (hslots : ∀ entries, subject.slots entries = slots)
    (hfields : List.Forall₂ (Describes blank) slots record.fields)
    (hnames : (slots.map Slot.name).Nodup) (hapart : record.fields.Pairwise Field.Apart)
    (medium : Medium) : Overlooks (.one subject) (record.read medium blank) := by
  intro value other h
  cases h with
  | object _ h =>
    rw [hslots] at h
    exact result?_reworded hfields (List.Subset.refl _) hnames hapart medium h
  | @listed _ before after slot value other hslot h =>
    rw [hslots] at hslot
    simp only [ReadAlike, Json.node, Record.read, Json.length_nodes, List.length_append,
      List.length_cons]
    split
    · rfl
    · exact readItems_reworded hfields hslot h blank

end Record

end ApiDescription
