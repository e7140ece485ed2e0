import ApiDescription.Proofs.Reading.Wording
import ApiDescription.Proofs.Schema.Node

namespace ApiDescription.Schema

variable {child : Node → Except Fault Schema}

theorem overlooks_readBound : Overlooks (.one .bound) readBound := by
  have hapart : boundRecord.fields.Pairwise Field.Apart := by simp [boundRecord]
  have hfields : List.Forall₂ (Describes {}) (Subject.bound.slots []) boundRecord.fields :=
    .cons (.required "value" (.data _)) (.cons (.defaulted "exclusive" (.data _)) .nil)
  exact (Record.overlooks (fun _ => rfl) hfields (by decide) hapart .buffered).bind _

theorem describes_string :
    List.Forall₂ (Describes {}) Kind.string.slots stringRecord.fields :=
  .cons (.option "format" rfl (.data _)) <| .cons (.option "minLength" rfl (.data _)) <|
    .cons (.option "maxLength" rfl (.data _)) <| .cons (.option "pattern" rfl (.data _)) .nil

theorem describes_number :
    List.Forall₂ (Describes {}) Kind.number.slots numberRecord.fields :=
  .cons (.defaulted "integer" (.data _)) <| .cons (.option "minimum" rfl overlooks_readBound) <|
    .cons (.option "maximum" rfl overlooks_readBound) <|
    .cons (.option "multipleOf" rfl (.data _)) .nil

theorem describes_fieldsOf (hchild : Overlooks (.one .schema) child) {kind : Kind}
    (hkind : ¬kind = .string ∧ ¬kind = .number) :
    List.Forall₂ (Describes {}) kind.slots (fieldsOf child kind) := by
  cases kind with
  | string => exact absurd rfl hkind.1
  | number => exact absurd rfl hkind.2
  | boolean | null | void | any => exact .nil
  | literal => exact .cons (.required "value" (.data _)) .nil
  | enumeration => exact .cons (.required "values" (.data _)) .nil
  | array =>
    exact .cons (.required "items" hchild)
      (.cons (.option "minItems" rfl (.data _)) (.cons (.option "maxItems" rfl (.data _)) .nil))
  | object =>
    exact .cons (.defaulted "properties" hchild.values)
      (.cons (.defaulted "unknownKeys" (.data _)) .nil)
  | record => exact .cons (.required "values" hchild) .nil
  | union => exact .cons (.required "options" hchild.items) .nil
  | optional | nullable => exact .cons (.required "inner" hchild) .nil
  | default => exact .cons (.required "inner" hchild) (.cons (.required "value" (.data _)) .nil)
  | refine =>
    exact .cons (.required "inner" hchild) (.cons (.option "message" rfl (.data _)) .nil)

theorem apart_fieldsOf (child : Node → Except Fault Schema) (kind : Kind) :
    (fieldsOf child kind).Pairwise Field.Apart := by
  cases kind <;> simp [fieldsOf, fieldsOf.innerField, fieldsOf.valueField]

theorem nodup_slots (kind : Option Kind) : ((slots kind).map Slot.name).Nodup := by
  rcases kind with _ | kind
  · decide
  · cases kind <;> decide

theorem toOption_readKind_reworded (hchild : Overlooks (.one .schema) child) {kind : Kind}
    {entries others : List (String × Json)} (h : RewordedEntries (slots (some kind)) entries others)
    (text : Option String) : (readKind child kind (Json.entryNodes entries) text).toOption =
      (readKind child kind (Json.entryNodes others) text).toOption := by
  have hused : kind.slots ⊆ slots (some kind) := fun _ hm => .tail _ (.tail _ hm)
  have hnames := nodup_slots (some kind)
  apply toOption_readKind_congr
  · rintro rfl
    have hapart : stringRecord.fields.Pairwise Field.Apart := by simp [stringRecord]
    exact Record.result?_reworded describes_string hused hnames hapart .buffered h
  · rintro rfl
    have hapart : numberRecord.fields.Pairwise Field.Apart := by simp [numberRecord]
    exact Record.result?_reworded describes_number hused hnames hapart .buffered h
  · have hapart := apart_fieldsOf child kind
    by_cases hkind : kind = .string ∨ kind = .number
    · -- Strings and numbers have records of their own, and none of their keys is for a part.
      have hnil : List.Forall₂ (Describes {}) [] (kindRecord child kind).fields := by
        rcases hkind with rfl | rfl <;> exact .nil
      exact Record.result?_reworded hnil nofun hnames hapart .buffered h
    · have hfields := describes_fieldsOf hchild (not_or.mp hkind)
      exact Record.result?_reworded hfields hused hnames hapart .buffered h

theorem kindOf?_of_result? {medium : Medium} {entries : List (String × Json)} {kind : Kind}
    (h : tagRecord.result? medium entries [] none = some (some kind)) :
    kindOf? entries = some kind := by
  induction entries with
  | nil => cases h
  | cons entry rest ih =>
    obtain ⟨key, value⟩ := entry
    by_cases hkey : key = "type"
    · subst hkey
      rw [tagRecord, Record.result?_single_self, toOption_map, Option.bind_map] at h
      obtain ⟨own, hown, hrest⟩ := Option.bind_eq_some_iff.mp h
      have hsame : some kind = some own := Record.eq_of_result?_single hrest
      show (variantAt Kind.names value.node).toOption = some kind
      rw [hown, hsame]
    · rw [tagRecord, Record.result?_single_of_ne hkey] at h
      rw [← ih h, kindOf?, kindOf?, Entries.get?, if_neg hkey]

theorem overlooks_readNode (hchild : Overlooks (.one .schema) child) (medium : Medium) :
    Overlooks (.one .schema) (readNode child medium) := by
  intro value other h
  cases h with
  | listed _ _ _ => rfl
  | @object _ entries others h =>
    have hnames := nodup_slots (kindOf? entries)
    have hdescription : List.Forall₂ (Describes none) [.option "description"]
        descriptionRecord.fields :=
      .cons ⟨rfl, fun _ => rfl, fun _ => (Overlooks.data _).map _⟩ .nil
    have htype : List.Forall₂ (Describes none) [{ name := "type" }] tagRecord.fields :=
      .cons (.required "type" (.data _)) .nil
    have htext := Record.result?_reworded hdescription
      (List.cons_subset.mpr ⟨.tail _ (.head _), nofun⟩) hnames (List.pairwise_singleton _ _)
      medium h
    have htag := Record.result?_reworded htype
      (List.cons_subset.mpr ⟨.head _, nofun⟩) hnames (List.pairwise_singleton _ _) .buffered h
    rw [ReadAlike, toOption_readNode, toOption_readNode, htext, ← htag]
    congr 1
    funext text
    cases hkind : tagRecord.result? .buffered entries [] none with
    | none => rfl
    | some kind? =>
      cases kind? with
      | none => rfl
      | some kind =>
        have hslots : kindOf? entries = some kind := kindOf?_of_result? hkind
        exact toOption_readKind_reworded hchild (hslots ▸ h) text

theorem overlooks_readWithin (depth : Nat) (medium : Medium) :
    Overlooks (.one .schema) (readWithin depth medium) := by
  induction depth generalizing medium with
  | zero => exact fun _ _ _ => rfl
  | succ depth ih => exact overlooks_readNode (ih .buffered) medium

theorem overlooks_read (medium : Medium) : Overlooks (.one .schema) (read medium) := by
  intro value other h
  let depth := max value.node.depth other.node.depth + 1
  calc (read medium value.node).toOption
    _ = (readWithin depth medium value.node).toOption :=
      toOption_readWithin medium (by omega) (by omega)
    _ = (readWithin depth medium other.node).toOption := overlooks_readWithin depth medium h
    _ = (read medium other.node).toOption := toOption_readWithin medium (by omega) (by omega)

end ApiDescription.Schema
