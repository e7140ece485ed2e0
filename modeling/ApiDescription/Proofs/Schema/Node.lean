import ApiDescription.Proofs.Reading.Result
import ApiDescription.Proofs.Schema.RoundTrip

namespace ApiDescription

variable {α κ : Type}

namespace Record

-- The value of one key.
def single (name : String) (read : Node → Except Fault α) : Record α where
  title := name
  fields := [.required name read fun x _ => x]

variable {name : String} {read : Node → Except Fault α} {medium : Medium}
  {entries : List (String × Json)} {draft : α}

theorem field?_single : (single name read).field? name = some (.required name read fun x _ => x) :=
  List.find?_cons_of_pos (by simp [Field.required])

theorem result?_single_self (value : Json) :
    (single name read).result? medium ((name, value) :: entries) [] draft =
      (read value.node).toOption.bind fun x =>
        (single name read).result? medium entries [name] x := by
  rw [result?_known field?_single, if_neg List.not_mem_nil]
  show Option.bind (_ <$> read value.node).toOption _ = _
  rw [toOption_map, Option.bind_map]
  rfl

theorem result?_single_again (value : Json) :
    (single name read).result? medium ((name, value) :: entries) [name] draft = none := by
  rw [result?_known field?_single, if_pos List.mem_cons_self]

theorem result?_single_of_ne {key : String} (h : key ≠ name) (value : Json) (seen : List String) :
    (single name read).result? medium ((key, value) :: entries) seen draft =
      (single name read).result? medium entries seen draft :=
  result?_unknown (field?_eq_none (by simpa [single, Field.required] using h)) value

-- What was read once does not change any more.
theorem eq_of_result?_single {result : α}
    (h : (single name read).result? medium entries [name] draft = some result) :
    result = draft := by
  induction entries with
  | nil => exact (Option.some.inj h).symm
  | cons entry rest ih =>
    obtain ⟨key, value⟩ := entry
    by_cases hkey : key = name
    · rw [hkey, result?_single_again] at h
      cases h
    · rw [result?_single_of_ne hkey] at h
      exact ih h

end Record

open Record (single)

namespace Schema

theorem splitDescription_of_ne {key : String} (hkey : key ≠ "description") (medium : Medium)
    (value : Json) (rest : List (Node × Node)) (text : Option (Option String)) :
    splitDescription medium ((.atom (.string key), value.node) :: rest) text =
      (fun split => (split.1, (.atom (.string key), value.node) :: split.2)) <$>
        splitDescription medium rest text := by
  rw [splitDescription, nodeKey_string]
  simp only [bind, Except.bind, Json.buffer_node]
  split
  · rename_i hsame
    cases hsame
    exact absurd rfl hkey
  · cases splitDescription medium rest text <;> rfl

-- The entries of a node without its description, which is read once.
theorem toOption_splitDescription (medium : Medium) (entries : List (String × Json))
    (text : Option (Option String)) :
    (splitDescription medium (Json.entryNodes entries) text).toOption =
      ((single "description" (Node.asOption Node.asString)).result? medium entries
        (text.map fun _ => "description").toList text.join).map fun own =>
          (own, Json.entryNodes (entries.filter fun entry => entry.1 != "description")) := by
  induction entries generalizing text with
  | nil => rfl
  | cons entry rest ih =>
    obtain ⟨key, value⟩ := entry
    by_cases hkey : key = "description"
    · subst hkey
      rw [Json.entryNodes, splitDescription, nodeKey_string, List.filter_cons_of_neg (by simp)]
      cases text with
      | some own =>
        show none = Option.map _ (Record.result? _ medium _ ["description"] own)
        rw [Record.result?_single_again]
        rfl
      | none =>
        show (Node.asOption Node.asString value.node >>= fun own =>
          splitDescription medium (Json.entryNodes rest) (some own)).toOption =
            Option.map _ (Record.result? _ medium _ [] none)
        rw [Record.result?_single_self, toOption_bind, Option.map_bind]
        exact congrArg _ (funext fun own => ih (some own))
    · rw [List.filter_cons_of_pos (by simpa using hkey), Record.result?_single_of_ne hkey,
        Json.entryNodes, splitDescription_of_ne hkey, toOption_map, ih, Option.map_map]
      rfl

theorem toOption_splitTag (tag : String) (variant : Node → Except Fault κ) (medium : Medium)
    (entries : List (String × Json)) (chosen : Option κ) :
    (splitTag tag variant medium (Json.entryNodes entries) chosen).toOption =
      ((single tag fun node => some <$> variant node).result? medium entries
        (chosen.map fun _ => tag).toList chosen).bind fun own => own.map fun kind =>
          (kind, Json.entryNodes (entries.filter fun entry => entry.1 != tag)) := by
  induction entries generalizing chosen with
  | nil => cases chosen <;> rfl
  | cons entry rest ih =>
    obtain ⟨key, value⟩ := entry
    have hbuffer : (Json.string key).node.buffer medium = .ok (.atom (.string key)) :=
      Json.buffer_node medium _
    rw [Json.node] at hbuffer
    rw [Json.entryNodes, splitTag, hbuffer]
    show Except.toOption (if key = tag then _ else _) = _
    by_cases hkey : key = tag
    · subst hkey
      rw [if_pos rfl, List.filter_cons_of_neg (by simp)]
      cases chosen with
      | some own =>
        show none = Option.bind (Record.result? _ medium _ [key] (some own)) _
        rw [Record.result?_single_again]
        rfl
      | none =>
        show (variant value.node >>= fun own =>
          splitTag key variant medium (Json.entryNodes rest) (some own)).toOption =
            Option.bind (Record.result? _ medium _ [] none) _
        rw [Record.result?_single_self, Option.bind_assoc, toOption_map, Option.bind_map,
          toOption_bind]
        exact congrArg _ (funext fun own => ih (some own))
    · rw [if_neg hkey, List.filter_cons_of_pos (by simpa using hkey),
        Record.result?_single_of_ne hkey]
      simp only [toOption_bind, Json.buffer_node, ih]
      rcases Record.result? _ medium rest _ chosen with _ | _ | own <;> rfl

variable {child other : Node → Except Fault Schema}

-- A node of a kind is what the record of its kind is read as.
theorem toOption_readKind_congr {kind : Kind} {entries others : List (String × Json)}
    (hstring : kind = .string → stringRecord.result? .buffered entries [] {} =
      stringRecord.result? .buffered others [] {})
    (hnumber : kind = .number → numberRecord.result? .buffered entries [] {} =
      numberRecord.result? .buffered others [] {})
    (hparts : (kindRecord child kind).result? .buffered entries [] {} =
      (kindRecord other kind).result? .buffered others [] {}) (text : Option String) :
    (readKind child kind (Json.entryNodes entries) text).toOption =
      (readKind other kind (Json.entryNodes others) text).toOption := by
  cases kind with
  | boolean | null | void | any => rfl
  | string =>
    simp only [readKind, toOption_bind]
    exact congrArg (Option.bind · _) (hstring rfl)
  | number =>
    simp only [readKind, toOption_bind]
    exact congrArg (Option.bind · _) (hnumber rfl)
  | literal | enumeration | array | object | record | union | optional | nullable | default
  | refine =>
    simp only [readKind, toOption_bind]
    exact congrArg (Option.bind · _) hparts

-- The keys of a node that are not of its kind do not reach the record of its kind.
theorem toOption_readKind_without (kind : Kind) (entries : List (String × Json)) {key : String}
    (hkey : key = "type" ∨ key = "description") (text : Option String) :
    (readKind child kind (Json.entryNodes (entries.filter fun entry => entry.1 != key))
      text).toOption = (readKind child kind (Json.entryNodes entries) text).toOption := by
  have hnot : ∀ {names : List String}, Unreserved names → key ∉ names := by
    rintro names ⟨-, htype, hdescription⟩
    rcases hkey with rfl | rfl
    · exact htype
    · exact hdescription
  apply toOption_readKind_congr
  · exact fun _ => Record.result?_without (hnot (by decide))
  · exact fun _ => Record.result?_without (hnot (by decide))
  · exact Record.result?_without (hnot (unreserved_fieldsOf child kind))

def descriptionRecord : Record (Option String) :=
  single "description" (Node.asOption Node.asString)

def tagRecord : Record (Option Kind) := single "type" fun node => some <$> variantAt Kind.names node

-- A node is read as three records side by side: its description, its kind, and the fields of the
-- kind. That what does not belong to one of them is set aside for the next one cannot be seen.
theorem toOption_readNode (child : Node → Except Fault Schema) (medium : Medium)
    (entries : List (String × Json)) :
    (readNode child medium (Json.object entries).node).toOption =
      (descriptionRecord.result? medium entries [] none).bind fun text =>
        (tagRecord.result? .buffered entries [] none).bind fun kind? => kind?.bind fun kind =>
          (readKind child kind (Json.entryNodes entries) text).toOption := by
  have htag : tagRecord.result? .buffered (entries.filter fun entry => entry.1 != "description") []
      none = tagRecord.result? .buffered entries [] none :=
    Record.result?_without (by simp [tagRecord, single, Field.required])
  simp only [readNode, Json.node, Node.asEntries, toOption_bind, toOption_ok, Option.bind_some,
    toOption_splitDescription, Option.bind_map, Function.comp_def, toOption_splitTag,
    Option.bind_assoc, Option.map_none, Option.toList_none, Option.join_none,
    toOption_readKind_without _ _ (.inl rfl), toOption_readKind_without _ _ (.inr rfl)]
  rw [← htag]
  rfl

-- Whether two functions read all values alike that are not as deep as a bound.
def AgreeBelow (bound : Nat) (read other : Node → Except Fault α) : Prop :=
  ∀ value : Json, value.node.depth < bound → ReadAlike read other value value

theorem AgreeBelow.map {bound : Nat} {read other : Node → Except Fault α}
    (h : AgreeBelow bound read other) (f : α → κ) :
    AgreeBelow bound (fun node => f <$> read node) fun node => f <$> other node := by
  intro value hdepth
  rw [ReadAlike, toOption_map, toOption_map, h value hdepth]

theorem AgreeBelow.asList {bound : Nat} {read other : Node → Except Fault α}
    (h : AgreeBelow bound read other) :
    AgreeBelow bound (Node.asList read) (Node.asList other) := by
  intro value hdepth
  cases value with
  | null | bool _ | number _ | string _ | object _ => rfl
  | array items =>
    exact Node.readAlike_asList (List.forall₂_same.mpr fun item hm =>
      h item (Nat.lt_trans (Json.depth_node_lt_array hm) hdepth))

theorem AgreeBelow.asMap {bound : Nat} {read other : Node → Except Fault α}
    (h : AgreeBelow bound read other) : AgreeBelow bound (Node.asMap read) (Node.asMap other) := by
  intro value hdepth
  cases value with
  | null | bool _ | number _ | string _ | array _ => rfl
  | object entries =>
    exact Node.readAlike_asMap (List.forall₂_same.mpr fun entry hm =>
      ⟨rfl, h entry.2 (Nat.lt_trans (Json.depth_node_lt_object hm) hdepth)⟩)

theorem agreeBelow_fieldsOf {bound : Nat} (h : AgreeBelow bound child other) (kind : Kind) :
    List.Forall₂ (fun f g => f.name = g.name ∧ ∀ draft, AgreeBelow bound
      (fun node => f.read node draft) fun node => g.read node draft)
      (fieldsOf child kind) (fieldsOf other kind) := by
  have hsame : ∀ field : Field Draft, field.name = field.name ∧ ∀ draft, AgreeBelow bound
      (fun node => field.read node draft) fun node => field.read node draft :=
    fun _ => ⟨rfl, fun _ _ _ => rfl⟩
  cases kind with
  | string | number | boolean | null | void | any => exact .nil
  | literal | enumeration => exact .cons (hsame _) .nil
  | array => exact .cons ⟨rfl, fun _ => h.map _⟩ (.cons (hsame _) (.cons (hsame _) .nil))
  | object => exact .cons ⟨rfl, fun _ => h.asMap.map _⟩ (.cons (hsame _) .nil)
  | record | optional | nullable => exact .cons ⟨rfl, fun _ => h.map _⟩ .nil
  | union => exact .cons ⟨rfl, fun _ => h.asList.map _⟩ .nil
  | default | refine => exact .cons ⟨rfl, fun _ => h.map _⟩ (.cons (hsame _) .nil)

theorem readAlike_readNode {value : Json} (h : AgreeBelow value.node.depth child other)
    (medium : Medium) : ReadAlike (readNode child medium) (readNode other medium) value value := by
  cases value with
  | null | bool _ | number _ | string _ | array _ => rfl
  | object entries =>
    have hparts : ∀ kind, (kindRecord child kind).result? .buffered entries [] {} =
        (kindRecord other kind).result? .buffered entries [] {} := by
      intro kind
      apply Record.result?_congr
      refine List.forall₂_same.mpr fun entry hm => ⟨rfl, Record.follows_of_forall₂ ?_ entry.1⟩
      exact (agreeBelow_fieldsOf h kind).imp fun _ _ hfield =>
        ⟨hfield.1, fun draft => hfield.2 draft entry.2 (Json.depth_node_lt_object hm)⟩
    rw [ReadAlike, toOption_readNode, toOption_readNode]
    congr 1
    funext text
    congr 1
    funext kind?
    congr 1
    funext kind
    exact toOption_readKind_congr (fun _ => rfl) (fun _ => rfl) (hparts kind) text

-- How deep a schema may be does not matter, as long as it is deep enough.
theorem toOption_readWithin {depth other : Nat} (medium : Medium) {value : Json}
    (hdepth : value.node.depth < depth) (hother : value.node.depth < other) :
    (readWithin depth medium value.node).toOption =
      (readWithin other medium value.node).toOption := by
  induction depth generalizing other medium value with
  | zero => omega
  | succ depth ih =>
    cases other with
    | zero => omega
    | succ other =>
      exact readAlike_readNode (fun part hpart => ih .buffered (by omega) (by omega)) medium

end Schema

end ApiDescription
