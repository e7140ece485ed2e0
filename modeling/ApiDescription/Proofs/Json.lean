import ApiDescription.Proofs.Entries
import ApiDescription.Json.Value
import Mathlib.Data.List.Perm.Subperm

namespace ApiDescription.Json

variable {α : Type u}

def entries : Json → Entries Json
  | object entries => entries
  | _ => []

@[simp] theorem get?_object (entries : Entries Json) (key : String) :
    (object entries).get? key = Entries.get? entries key := rfl

@[simp] theorem get?_present_nil (key : String) : (present []).get? key = none := rfl

@[simp] theorem get?_present_none (rest : List (Option (String × Json))) (key : String) :
    (present (none :: rest)).get? key = (present rest).get? key := rfl

@[simp] theorem get?_present_field (name : String) (value : Json)
    (rest : List (Option (String × Json))) (key : String) :
    (present (field name value :: rest)).get? key =
      if name = key then some value else (present rest).get? key := rfl

@[simp] theorem get?_present_field? (name : String) (value : Option α) (render : α → Json)
    (rest : List (Option (String × Json))) (key : String) :
    (present (field? name value render :: rest)).get? key =
      if name = key then (value.map render).or ((present rest).get? key)
      else (present rest).get? key := by
  cases value with
  | none => simp [field?]
  | some value => rfl

@[simp] theorem get?_present_ite (absent : Prop) [Decidable absent]
    (entry : Option (String × Json)) (rest : List (Option (String × Json))) (key : String) :
    (present ((if absent then none else entry) :: rest)).get? key =
      if absent then (present rest).get? key else (present (entry :: rest)).get? key := by
  split <;> rfl

-- The keys of an object that leaves out some of its entries are among the names of all of them.
theorem keys_filterMap_nil :
    (Entries.keys (([] : List (Option (String × Json))).filterMap id)).Sublist [] := .slnil

theorem keys_filterMap_none {entries : List (Option (String × Json))} {names : List String}
    (h : (Entries.keys (entries.filterMap id)).Sublist names) (name : String) :
    (Entries.keys ((none :: entries).filterMap id)).Sublist (name :: names) := h.cons name

theorem keys_filterMap_field {entries : List (Option (String × Json))} {names : List String}
    (h : (Entries.keys (entries.filterMap id)).Sublist names) (name : String) (value : Json) :
    (Entries.keys ((field name value :: entries).filterMap id)).Sublist (name :: names) :=
  h.cons_cons name

theorem keys_filterMap_field? {entries : List (Option (String × Json))} {names : List String}
    (h : (Entries.keys (entries.filterMap id)).Sublist names) (name : String) (value : Option α)
    (render : α → Json) :
    (Entries.keys ((field? name value render :: entries).filterMap id)).Sublist
      (name :: names) := by
  cases value with
  | none => exact keys_filterMap_none h name
  | some value => exact keys_filterMap_field h name (render value)

theorem keys_filterMap_ite {entries : List (Option (String × Json))} {names : List String}
    (h : (Entries.keys (entries.filterMap id)).Sublist names) (absent : Prop) [Decidable absent]
    (name : String) (value : Json) :
    (Entries.keys (((if absent then none else field name value) :: entries).filterMap id)).Sublist
      (name :: names) := by
  split
  · exact keys_filterMap_none h name
  · exact keys_filterMap_field h name value

theorem keys_filterMap_append {entries more : List (Option (String × Json))}
    {names others : List String} (h : (Entries.keys (entries.filterMap id)).Sublist names)
    (hmore : (Entries.keys (more.filterMap id)).Sublist others) :
    (Entries.keys ((entries ++ more).filterMap id)).Sublist (names ++ others) := by
  rw [List.filterMap_append, Entries.keys, List.map_append]
  exact h.append hmore

theorem get?_of_keys {entries : Entries Json} {names : List String}
    (h : entries.keys.Sublist names) {key : String} (hkey : key ∉ names) :
    entries.get? key = none := by
  rw [Entries.get?_eq_none_iff]
  exact fun hm => hkey (h.subset hm)

theorem distinct_of_keys {entries : Entries Json} {names : List String}
    (h : entries.keys.Sublist names) (hn : names.Nodup) : entries.Distinct := hn.sublist h

theorem sameEntries_iff (as bs : Entries Json) :
    sameEntries as bs = true ↔
      ∀ entry ∈ as, ∃ b, bs.get? entry.1 = some b ∧ same entry.2 b = true := by
  induction as with
  | nil => simp [sameEntries]
  | cons first rest ih =>
    obtain ⟨key, value⟩ := first
    rw [sameEntries, Bool.and_eq_true, ih, List.forall_mem_cons]
    cases bs.get? key <;> simp

-- Objects that are the same but for the order of their keys say the same under every key.
theorem get?_of_same {as bs : Entries Json} (hd : as.Distinct)
    (h : same (object as) (object bs) = true) (key : String) :
    Option.Rel (fun a b => same a b = true) (as.get? key) (bs.get? key) := by
  rw [same, Bool.and_eq_true, decide_eq_true_iff, sameEntries_iff] at h
  obtain ⟨hlength, hentries⟩ := h
  cases ha : as.get? key with
  | some a =>
    obtain ⟨b, hb, hsame⟩ := hentries (key, a) (Entries.mem_of_get? ha)
    rw [hb]
    exact .some hsame
  | none =>
    -- There are as many keys on both sides, so the other side has no further one.
    have hsubset : as.keys ⊆ bs.keys := by
      intro other hm
      obtain ⟨entry, hentry, rfl⟩ := List.mem_map.mp hm
      obtain ⟨b, hb, -⟩ := hentries entry hentry
      rw [← Entries.contains_iff, Entries.contains, hb]
      rfl
    have hkeys : bs.keys.length ≤ as.keys.length := by simp [Entries.keys, hlength]
    have hperm := (List.subperm_of_subset hd hsubset).perm_of_length_le hkeys
    have hb : bs.get? key = none := by
      rw [Entries.get?_eq_none_iff, ← hperm.mem_iff, ← Entries.get?_eq_none_iff, ha]
    rw [hb]
    exact .none

end ApiDescription.Json
