import ApiDescription.Proofs.Reading.Node

namespace ApiDescription

variable {α δ : Type}

-- The fields of a record beside what was written for each of them, and what the reading of that
-- makes of a draft. A field that was left out leaves the draft as it is.
inductive Fills : List (Field δ) → List (Option (String × Json)) → δ → δ → Prop where
  | nil (draft : δ) : Fills [] [] draft draft
  | absent {field : Field δ} {fields : List (Field δ)} {entries : List (Option (String × Json))}
    {draft result : δ} :
    Fills fields entries draft result → Fills (field :: fields) (none :: entries) draft result
  | present {field : Field δ} {fields : List (Field δ)} {entries : List (Option (String × Json))}
    {value : Json} {draft next result : δ} :
    field.read value.node draft = .ok next → Fills fields entries next result →
    Fills (field :: fields) (some (field.name, value) :: entries) draft result

namespace Fills

variable {fields : List (Field δ)} {entries : List (Option (String × Json))} {draft result : δ}
  {read : Node → Except Fault α}

theorem required {put : α → δ → δ} {value : Json} {x : α} (name : String)
    (hread : read value.node = .ok x) (h : Fills fields entries (put x draft) result) :
    Fills (.required name read put :: fields) (Json.field name value :: entries) draft result := by
  have hfield : (Field.required name read put).read value.node draft = .ok (put x draft) := by
    show (fun x => put x draft) <$> read value.node = _
    rw [hread]
    rfl
  exact .present hfield h

theorem defaulted {put : α → δ → δ} {value : Json} {x : α} (name : String)
    (hread : read value.node = .ok x) (h : Fills fields entries (put x draft) result) :
    Fills (.defaulted name read put :: fields) (Json.field name value :: entries) draft result := by
  have hfield : (Field.defaulted name read put).read value.node draft = .ok (put x draft) := by
    show (fun x => put x draft) <$> read value.node = _
    rw [hread]
    rfl
  exact .present hfield h

-- Nothing is written for an absent value, and the draft already says that it is absent.
theorem optional {put : Option α → δ → δ} {render : α → Json} (name : String) (value : Option α)
    (hnone : put none draft = draft) (hread : Node.Inverts read render)
    (h : Fills fields entries (put value draft) result) :
    Fills (.optional name read put :: fields) (Json.field? name value render :: entries) draft
      result := by
  cases value with
  | none =>
    rw [hnone] at h
    exact .absent h
  | some x => exact defaulted name (Node.asOption_node (hread.isPresent x) (hread.read x)) h

theorem keys (h : Fills fields entries draft result) :
    (Entries.keys (entries.filterMap id)).Sublist (fields.map Field.name) := by
  induction h with
  | nil => exact .slnil
  | absent _ ih => exact ih.cons _
  | present _ _ ih => exact ih.cons_cons _

end Fills

namespace Record

theorem fieldFor_string (record : Record δ) (medium : Medium) (name : String) :
    record.fieldFor medium (.atom (.string name)) =
      .ok (record.fields.find? fun field => field.name = name) := by
  cases medium <;> rfl

-- Among distinct names a name finds its own field.
theorem find?_name {fields : List (Field δ)} (hn : (fields.map Field.name).Nodup)
    {field : Field δ} (hm : field ∈ fields) :
    fields.find? (fun other => other.name = field.name) = some field := by
  induction fields with
  | nil => cases hm
  | cons first rest ih =>
    rw [List.map_cons, List.nodup_cons] at hn
    rcases List.mem_cons.mp hm with rfl | hm
    · simp
    · have hne : first.name ≠ field.name := fun he => hn.1 (he ▸ List.mem_map_of_mem hm)
      rw [List.find?_cons_of_neg (by simpa using hne)]
      exact ih hn.2 hm

-- The induction is on the fields that are still to come: none of them has been seen so far.
theorem readEntries_of_fills {record : Record δ} (hn : (record.fields.map Field.name).Nodup)
    (medium : Medium) {fields : List (Field δ)} {entries : List (Option (String × Json))}
    {draft result : δ} (h : Fills fields entries draft result)
    (hfields : (fields.map Field.name).Nodup) (hm : ∀ field ∈ fields, field ∈ record.fields)
    {seen : List String} (hseen : ∀ field ∈ fields, field.name ∉ seen) :
    record.readEntries medium (Json.entryNodes (entries.filterMap id)) seen draft =
      .ok result := by
  induction h generalizing seen with
  | nil draft => rfl
  | absent _ ih =>
    rw [List.forall_mem_cons] at hm hseen
    exact ih (List.nodup_cons.mp hfields).2 hm.2 hseen.2
  | @present field fields entries value draft next result hread _ ih =>
    rw [List.forall_mem_cons] at hm hseen
    obtain ⟨hnew, hrest⟩ := List.nodup_cons.mp hfields
    have hlater : ∀ other ∈ fields, other.name ∉ field.name :: seen := by
      intro other hother hknown
      rcases List.mem_cons.mp hknown with he | hold
      · exact hnew (he ▸ List.mem_map_of_mem hother)
      · exact hseen.2 other hother hold
    show record.readEntries medium
      ((.atom (.string field.name), value.node) :: Json.entryNodes (entries.filterMap id)) seen
        draft = _
    rw [readEntries, fieldFor_string, find?_name hn hm.1]
    show (if field.name ∈ seen then _ else _) = _
    rw [if_neg hseen.1, hread]
    exact ih hrest hm.2 hlater

-- What was written field by field is read back as the record it was written from, in whatever order
-- the fields were written.
theorem read_of_fills_of_perm {record : Record δ} (hn : (record.fields.map Field.name).Nodup)
    (medium : Medium) {fields : List (Field δ)} (hfields : fields.Perm record.fields)
    {entries : List (Option (String × Json))} {draft result : δ}
    (h : Fills fields entries draft result) :
    record.read medium draft (Json.present entries).node = .ok result :=
  readEntries_of_fills hn medium h ((hfields.map _).nodup_iff.mpr hn)
    (fun _ hm => hfields.mem_iff.mp hm) fun _ _ => List.not_mem_nil

theorem read_of_fills {record : Record δ} (hn : (record.fields.map Field.name).Nodup)
    (medium : Medium) {entries : List (Option (String × Json))} {draft result : δ}
    (h : Fills record.fields entries draft result) :
    record.read medium draft (Json.present entries).node = .ok result :=
  read_of_fills_of_perm hn medium (.refl _) h

end Record

theorem splitTag_entryNodes {κ : Type} {tag : String} (variant : Node → Except Fault κ)
    (medium : Medium) (chosen : κ) (pairs : List (String × Json))
    (hkeys : ∀ pair ∈ pairs, pair.1 ≠ tag) :
    splitTag tag variant medium (Json.entryNodes pairs) (some chosen) =
      .ok (chosen, Json.entryNodes pairs) := by
  induction pairs with
  | nil => rfl
  | cons pair rest ih =>
    have hrest := ih fun other hm => hkeys other (List.mem_cons_of_mem _ hm)
    have hkey : (Json.string pair.1).node.buffer medium = .ok (Json.string pair.1).node :=
      Json.buffer_node medium _
    rw [Json.entryNodes, splitTag]
    simp only [bind, Except.bind, Json.node] at hkey ⊢
    rw [hkey]
    simp only [if_neg (hkeys pair List.mem_cons_self), Json.buffer_node, hrest]
    rfl

-- The tag is written first, and the entries after it are those of the variant.
theorem splitTag_written {κ : Type} {known : List (String × κ)} {kind : String} {chosen : κ}
    (hkind : Entries.get? known kind = some chosen) (medium : Medium)
    (pairs : List (String × Json)) (hkeys : ∀ pair ∈ pairs, pair.1 ≠ "type") :
    splitTag "type" (variantAt known) medium
        (Json.entryNodes (("type", .string kind) :: pairs)) none =
      .ok (chosen, Json.entryNodes pairs) := by
  have hkey : (Json.string "type").node.buffer medium = .ok (Json.string "type").node :=
    Json.buffer_node medium _
  have hvariant : variantAt known (Json.string kind).node = .ok chosen := by
    show variantOf known kind = .ok chosen
    rw [variantOf, hkind]
  rw [Json.entryNodes, splitTag]
  simp only [Json.node] at hkey hvariant ⊢
  rw [hkey]
  simp only [bind, Except.bind, if_pos, hvariant]
  exact splitTag_entryNodes _ medium chosen pairs hkeys

end ApiDescription
