import ApiDescription.Proofs.Entries
import ApiDescription.Reading.Record
import ApiDescription.Schema.Export

namespace ApiDescription

namespace Json

mutual

-- Whether the keys of all objects are distinct. That is so in every value that a program holds: an
-- ordered map has each of its keys once.
def wellFormed : Json → Bool
  | array items => wellFormedItems items
  | object entries => decide (Entries.Distinct entries) && wellFormedEntries entries
  | _ => true

def wellFormedItems : List Json → Bool
  | [] => true
  | item :: rest => wellFormed item && wellFormedItems rest

def wellFormedEntries : List (String × Json) → Bool
  | [] => true
  | (_, value) :: rest => wellFormed value && wellFormedEntries rest

end

mutual

-- A value that was once read is not read in another way when it is set aside.
theorem settle_node : ∀ value : Json, value.node.settle = .ok value.node
  | null | bool _ | number _ | string _ => rfl
  | array items => by
    rw [node, Node.settle, settleItems_nodes items]
    rfl
  | object entries => by
    rw [node, Node.settle, settleEntries_entryNodes entries]
    rfl

theorem settleItems_nodes : ∀ items : List Json, Node.settleItems (nodes items) = .ok (nodes items)
  | [] => rfl
  | item :: rest => by
    rw [nodes, Node.settleItems, settle_node item, settleItems_nodes rest]
    rfl

theorem settleEntries_entryNodes : ∀ entries : List (String × Json),
    Node.settleEntries (entryNodes entries) = .ok (entryNodes entries)
  | [] => rfl
  | (key, value) :: rest => by
    rw [entryNodes, Node.settleEntries, settle_node value, settleEntries_entryNodes rest]
    rfl

end

@[simp] theorem buffer_node (medium : Medium) (value : Json) :
    value.node.buffer medium = .ok value.node := by
  cases medium with
  | value | buffered => rfl
  | json | yaml => exact settle_node value

mutual

theorem asJson_node : ∀ value : Json, value.wellFormed = true → value.node.asJson = .ok value
  | null, _ | bool _, _ | number _, _ | string _, _ => rfl
  | array items, h => by
    rw [node, Node.asJson, asJsonItems_nodes items h]
    rfl
  | object entries, h => by
    rw [wellFormed, Bool.and_eq_true, decide_eq_true_eq] at h
    rw [node, Node.asJson, asJsonEntries_entryNodes entries h.2]
    show Except.ok (object (Entries.ofList entries)) = _
    rw [Entries.ofList_eq_self h.1]

theorem asJsonItems_nodes : ∀ items : List Json, wellFormedItems items = true →
    Node.asJsonItems (nodes items) = .ok items
  | [], _ => rfl
  | item :: rest, h => by
    rw [wellFormedItems, Bool.and_eq_true] at h
    rw [nodes, Node.asJsonItems, asJson_node item h.1, asJsonItems_nodes rest h.2]
    rfl

theorem asJsonEntries_entryNodes : ∀ entries : List (String × Json),
    wellFormedEntries entries = true → Node.asJsonEntries (entryNodes entries) = .ok entries
  | [], _ => rfl
  | (key, value) :: rest, h => by
    rw [wellFormedEntries, Bool.and_eq_true] at h
    rw [entryNodes, Node.asJsonEntries, asJson_node value h.1, asJsonEntries_entryNodes rest h.2]
    rfl

end

-- What stands inside of a value is not as deep as the value.
theorem depth_node_lt_array {items : List Json} {item : Json} (h : item ∈ items) :
    item.node.depth < (array items).node.depth := by
  rw [node, Node.depth]
  induction items with
  | nil => cases h
  | cons first rest ih =>
    rw [nodes, Node.depthItems]
    rcases List.mem_cons.mp h with rfl | hm
    · omega
    · have := ih hm
      omega

theorem depth_node_lt_object {entries : List (String × Json)} {entry : String × Json}
    (h : entry ∈ entries) : entry.2.node.depth < (object entries).node.depth := by
  rw [node, Node.depth]
  induction entries with
  | nil => cases h
  | cons first rest ih =>
    rw [entryNodes, Node.depthEntries]
    rcases List.mem_cons.mp h with rfl | hm
    · omega
    · have := ih hm
      omega

theorem length_nodes (items : List Json) : (nodes items).length = items.length := by
  induction items with
  | nil => rfl
  | cons item rest ih => rw [nodes, List.length_cons, List.length_cons, ih]

end Json

namespace Node

variable {α : Type}

-- What one function writes the other one reads back, and it never looks like an absent value.
structure Inverts (read : Node → Except Fault α) (render : α → Json) : Prop where
  isPresent : ∀ x, render x ≠ .null
  read : ∀ x, read (render x).node = .ok x

theorem inverts_string : Inverts asString .string := ⟨fun _ => nofun, fun _ => rfl⟩

theorem inverts_number : Inverts asNumber .number := ⟨fun _ => nofun, fun _ => rfl⟩

theorem inverts_count : Inverts asUInt64 Schema.count := by
  refine ⟨fun _ => nofun, fun value => ?_⟩
  have h := value.toNat_lt
  have hfits : inWord 64 (value.toNat : Int) = .ok value.toNat := by
    rw [inWord, if_pos ⟨by omega, by simp; omega⟩, Int.toNat_natCast]
  show UInt64.ofNat <$> inWord 64 (value.toNat : Int) = _
  rw [hfits]
  exact congrArg Except.ok (UInt64.ofNat_toNat)

theorem inverts_code : Inverts asUInt16 fun value => .number (.ofUInt16 value) := by
  refine ⟨fun _ => nofun, fun value => ?_⟩
  have h := value.toNat_lt
  have hfits : inWord 16 (value.toNat : Int) = .ok value.toNat := by
    rw [inWord, if_pos ⟨by omega, by simp; omega⟩, Int.toNat_natCast]
  show UInt16.ofNat <$> inWord 16 (value.toNat : Int) = _
  rw [hfits]
  exact congrArg Except.ok (UInt16.ofNat_toNat)

theorem inverts_keyword {known : List (String × α)} {text : α → String}
    (h : ∀ value, Entries.get? known (text value) = some value) (medium : Medium) :
    Inverts (keyword known medium) fun value => .string (text value) := by
  refine ⟨fun _ => nofun, fun value => ?_⟩
  show variantOf known (text value) = .ok value
  rw [variantOf, h]

theorem asOption_node_of_ne_null (read : Node → Except Fault α) {value : Json}
    (h : value ≠ .null) : asOption read value.node = some <$> read value.node := by
  cases value with
  | null => exact absurd rfl h
  | bool | number | string | array | object => rfl

theorem asOption_node {read : Node → Except Fault α} {value : Json} {x : α}
    (hvalue : value ≠ .null) (hread : read value.node = .ok x) :
    asOption read value.node = .ok (some x) := by
  rw [asOption_node_of_ne_null read hvalue, hread]
  rfl

theorem asList_array {read : Node → Except Fault α} {render : α → Json} {values : List α}
    (h : ∀ value ∈ values, read (render value).node = .ok value) :
    asList read (Json.array (values.map render)).node = .ok values := by
  show List.mapM read (Json.nodes (values.map render)) = .ok values
  induction values with
  | nil => rfl
  | cons value rest ih =>
    rw [List.map_cons, Json.nodes, List.mapM_cons, h value List.mem_cons_self,
      ih fun other hm => h other (List.mem_cons_of_mem _ hm)]
    rfl

theorem asMap_object {read : Node → Except Fault α} {render : α → Json} {entries : Entries α}
    (hd : entries.Distinct) (h : ∀ entry ∈ entries, read (render entry.2).node = .ok entry.2) :
    asMap read (Json.object (entries.map fun entry => (entry.1, render entry.2))).node =
      .ok entries := by
  have hpairs : readPairs read
      (Json.entryNodes (entries.map fun entry => (entry.1, render entry.2))) = .ok entries := by
    clear hd
    induction entries with
    | nil => rfl
    | cons entry rest ih =>
      rw [List.map_cons, Json.entryNodes, readPairs, h entry List.mem_cons_self,
        ih fun other hm => h other (List.mem_cons_of_mem _ hm)]
      rfl
  show Entries.ofList <$> readPairs read _ = _
  rw [hpairs]
  exact congrArg Except.ok (Entries.ofList_eq_self hd)

end Node

end ApiDescription
