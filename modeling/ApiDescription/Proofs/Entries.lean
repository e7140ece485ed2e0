import ApiDescription.Entries
import Mathlib.Data.List.Basic
import Mathlib.Data.List.Induction

namespace ApiDescription

-- The distinct values of a list grow at the end, and only by a new value.
theorem eraseDups_append_singleton [BEq α] [LawfulBEq α] (values : List α) (value : α) :
    (values ++ [value]).eraseDups =
      if value ∈ values then values.eraseDups else values.eraseDups ++ [value] := by
  rw [List.eraseDups_append]
  by_cases h : value ∈ values <;> simp [List.removeAll, h, List.eraseDups_cons]

theorem map_eraseDups [DecidableEq α] [DecidableEq β] (f : α → β) (hf : Function.Injective f)
    (values : List α) : values.eraseDups.map f = (values.map f).eraseDups := by
  induction values using List.reverseRecOn with
  | nil => rfl
  | append_singleton values value ih =>
    rw [List.map_append, List.map_singleton, eraseDups_append_singleton,
      eraseDups_append_singleton, ← ih]
    have hm : f value ∈ values.map f ↔ value ∈ values := List.mem_map_of_injective hf
    by_cases h : value ∈ values <;> simp [h, hm]

-- The last item of a kind, by what comes before it and after it.
theorem findRev?_eq_some_iff {kind : α → Bool} {items : List α} {last : α} :
    items.findRev? kind = some last ↔ kind last = true ∧
      ∃ before after, items = before ++ last :: after ∧ ∀ item ∈ after, kind item = false := by
  rw [List.findRev?_eq_find?_reverse, List.find?_eq_some_iff_append]
  constructor
  · rintro ⟨hlast, before, after, hitems, hother⟩
    refine ⟨hlast, after.reverse, before.reverse, ?_, fun item hm => ?_⟩
    · rw [← List.reverse_reverse items, hitems]
      simp
    · simpa using hother item (List.mem_reverse.mp hm)
  · rintro ⟨hlast, before, after, rfl, hother⟩
    exact ⟨hlast, after.reverse, before.reverse, by simp, by simpa using hother⟩

-- The last item of a kind is one of the items and of the kind, and there is one if any item is.
theorem of_findRev?_eq_some {kind : α → Bool} {items : List α} {last : α}
    (h : items.findRev? kind = some last) : last ∈ items ∧ kind last = true := by
  obtain ⟨hlast, before, after, rfl, -⟩ := findRev?_eq_some_iff.mp h
  exact ⟨by simp, hlast⟩

theorem exists_findRev?_eq_some (kind : α → Bool) {items : List α} {item : α}
    (hm : item ∈ items) (h : kind item = true) :
    ∃ last, items.findRev? kind = some last ∧ kind last = true := by
  have hfound : (items.findRev? kind).isSome = true := by
    rw [List.findRev?_eq_find?_reverse, List.find?_isSome]
    exact ⟨item, List.mem_reverse.mpr hm, h⟩
  obtain ⟨last, hlast⟩ := Option.isSome_iff_exists.mp hfound
  exact ⟨last, hlast, (of_findRev?_eq_some hlast).2⟩

namespace Entries

variable {α : Type u} {β : Type v}

theorem get?_eq_none_iff (entries : Entries α) (key : String) :
    get? entries key = none ↔ key ∉ keys entries := by
  induction entries with
  | nil => simp [get?, keys]
  | cons entry rest ih =>
    obtain ⟨other, value⟩ := entry
    by_cases h : other = key
    · simp [get?, keys, h]
    · simpa [get?, keys, h, Ne.symm h] using ih

theorem contains_iff (entries : Entries α) (key : String) :
    contains entries key = true ↔ key ∈ keys entries := by
  rw [contains, Option.isSome_iff_ne_none, ne_eq, get?_eq_none_iff, Classical.not_not]

theorem mem_keys_iff_of_get? {entries : Entries α} {key : String} {value : α} {absent : Prop}
    [Decidable absent] (h : get? entries key = if absent then none else some value) :
    key ∈ keys entries ↔ ¬absent := by
  rw [← contains_iff, contains, h]
  split <;> simp_all

theorem get?_of_mem {entries : Entries α} (hd : Distinct entries) {key : String} {value : α}
    (h : (key, value) ∈ entries) : get? entries key = some value := by
  induction entries with
  | nil => simp at h
  | cons entry rest ih =>
    obtain ⟨other, old⟩ := entry
    obtain ⟨hn, hd⟩ := List.nodup_cons.mp hd
    rcases List.mem_cons.mp h with he | hm
    · cases he
      simp [get?]
    · have hk : key ∈ keys rest := List.mem_map_of_mem hm
      have hne : other ≠ key := fun he => hn (he ▸ hk)
      simpa [get?, hne] using ih hd hm

theorem mem_of_get? {entries : Entries α} {key : String} {value : α}
    (h : get? entries key = some value) : (key, value) ∈ entries := by
  induction entries with
  | nil => cases h
  | cons entry rest ih =>
    obtain ⟨other, old⟩ := entry
    by_cases hk : other = key
    · simp_all [get?]
    · exact List.mem_cons_of_mem _ (ih (by simpa [get?, hk] using h))

theorem get?_append (entries more : Entries α) (key : String) :
    get? (entries ++ more) key = (get? entries key).or (get? more key) := by
  induction entries with
  | nil => rfl
  | cons entry rest ih =>
    obtain ⟨other, value⟩ := entry
    by_cases hk : other = key
    · simp [get?, hk]
    · simpa [get?, hk] using ih

-- With distinct keys, the order of the keys and what a look-up says are all there is.
theorem filterMap_keys {entries : Entries α} (hd : Distinct entries) :
    (entries.keys.filterMap fun key => (get? entries key).map fun value => (key, value)) =
      entries := by
  induction entries with
  | nil => rfl
  | cons entry rest ih =>
    obtain ⟨first, value⟩ := entry
    obtain ⟨hn, hd⟩ := List.nodup_cons.mp hd
    have hrest : ∀ key ∈ keys rest, get? ((first, value) :: rest) key = get? rest key := by
      intro key hm
      have hne : first ≠ key := fun he => hn (he ▸ hm)
      simp [get?, hne]
    have htail := List.filterMap_congr fun key hm =>
      congrArg (Option.map fun value => (key, value)) (hrest key hm)
    rw [ih hd] at htail
    simpa [keys, get?] using htail

theorem extend_append (entries : Entries α) (more rest : List (String × α)) :
    extend entries (more ++ rest) = extend (extend entries more) rest := List.foldl_append

theorem ofList_append_singleton (pairs : List (String × α)) (pair : String × α) :
    ofList (pairs ++ [pair]) = insert (ofList pairs) pair.1 pair.2 := extend_append ..

theorem ofList_nil : ofList ([] : List (String × α)) = [] := rfl

theorem ofList_singleton (pair : String × α) : ofList [pair] = [pair] := rfl

theorem distinct_ofList (pairs : List (String × α)) : Distinct (ofList pairs) := by
  induction pairs using List.reverseRecOn with
  | nil => exact List.nodup_nil
  | append_singleton pairs pair ih =>
    rw [ofList_append_singleton]
    exact distinct_insert ih pair.1 pair.2

-- The keys in the order in which they first come.
theorem keys_ofList (pairs : List (String × α)) :
    keys (ofList pairs) = (pairs.map Prod.fst).eraseDups := by
  induction pairs using List.reverseRecOn with
  | nil => rfl
  | append_singleton pairs pair ih =>
    rw [ofList_append_singleton, keys_insert, ih, List.map_append, List.map_singleton,
      eraseDups_append_singleton]
    simp only [List.mem_eraseDups]

theorem ofList_eq_nil_iff (pairs : List (String × α)) : ofList pairs = [] ↔ pairs = [] := by
  constructor
  · intro h
    have hkeys := keys_ofList pairs
    rw [h] at hkeys
    have hnone : ∀ key, key ∉ pairs.map Prod.fst := by
      intro key hm
      rw [← List.mem_eraseDups, ← hkeys] at hm
      cases hm
    simpa using List.eq_nil_iff_forall_not_mem.mpr hnone
  · rintro rfl
    rfl

-- The last value of a key counts.
theorem get?_ofList (pairs : List (String × α)) (key : String) :
    get? (ofList pairs) key = get? pairs.reverse key := by
  induction pairs using List.reverseRecOn with
  | nil => rfl
  | append_singleton pairs pair ih =>
    rw [ofList_append_singleton, get?_insert, ih, List.reverse_append]
    rfl

-- Nothing but the given values ever stands in a map.
theorem mem_insert {entries : Entries α} {key : String} {value : α} {entry : String × α}
    (h : entry ∈ insert entries key value) : entry ∈ entries ∨ entry = (key, value) := by
  induction entries with
  | nil => exact .inr (List.mem_singleton.mp h)
  | cons first rest ih =>
    obtain ⟨other, old⟩ := first
    unfold insert at h
    split at h
    · rcases List.mem_cons.mp h with he | hm
      · exact .inr he
      · exact .inl (List.mem_cons_of_mem _ hm)
    · rcases List.mem_cons.mp h with he | hm
      · exact .inl (he ▸ List.mem_cons_self)
      · exact (ih hm).imp_left (List.mem_cons_of_mem _)

theorem mem_extend {entries : Entries α} {more : List (String × α)} {entry : String × α}
    (h : entry ∈ extend entries more) : entry ∈ entries ∨ entry ∈ more := by
  induction more generalizing entries with
  | nil => exact .inl h
  | cons first rest ih =>
    have hstep : entry ∈ extend (insert entries first.1 first.2) rest := h
    rcases ih hstep with hm | hm
    · rcases mem_insert hm with hm | he
      · exact .inl hm
      · exact .inr (he ▸ List.mem_cons_self)
    · exact .inr (List.mem_cons_of_mem _ hm)

theorem insert_of_not_mem {entries : Entries α} {key : String} (h : key ∉ keys entries)
    (value : α) : insert entries key value = entries ++ [(key, value)] := by
  induction entries with
  | nil => rfl
  | cons entry rest ih =>
    obtain ⟨other, old⟩ := entry
    obtain ⟨hne, hr⟩ : key ≠ other ∧ key ∉ keys rest := by simpa [keys] using h
    simp [insert, Ne.symm hne, ih hr]

theorem get?_insert_self (entries : Entries α) (key : String) (value : α) :
    get? (insert entries key value) key = some value := by
  rw [get?_insert, if_pos rfl]

theorem get?_insert_of_ne {key other : String} (hne : other ≠ key) (entries : Entries α)
    (value : α) : get? (insert entries key value) other = get? entries other := by
  rw [get?_insert, if_neg hne.symm]

-- An insertion under a key that is not among some names leaves what stands under them.
theorem get?_insert_of_mem {names : List String} {key other : String} (hkey : key ∉ names)
    (hm : other ∈ names) (entries : Entries α) (value : α) :
    get? (insert entries key value) other = get? entries other :=
  get?_insert_of_ne (ne_of_mem_of_not_mem hm hkey) entries value

-- A value that is there already can be inserted once more.
theorem insert_eq_self {entries : Entries α} {key : String} {value : α}
    (h : get? entries key = some value) : insert entries key value = entries := by
  induction entries with
  | nil => cases h
  | cons entry rest ih =>
    obtain ⟨other, old⟩ := entry
    by_cases hk : other = key
    · simp_all [get?, insert]
    · rw [insert, if_neg hk, ih (by simpa [get?, hk] using h)]

theorem ofList_eq_self {pairs : Entries α} (hd : Distinct pairs) : ofList pairs = pairs := by
  induction pairs using List.reverseRecOn with
  | nil => rfl
  | append_singleton pairs pair ih =>
    have hkeys : keys (pairs ++ [pair]) = keys pairs ++ [pair.1] := List.map_append
    rw [Distinct, hkeys, List.nodup_append] at hd
    have hn : pair.1 ∉ keys pairs := fun hm => hd.2.2 _ hm _ (by simp) rfl
    rw [ofList_append_singleton, ih hd.1]
    exact insert_of_not_mem hn pair.2

theorem get?_mapValues (f : α → β) (entries : Entries α) (key : String) :
    get? (mapValues f entries) key = (get? entries key).map f := by
  induction entries with
  | nil => rfl
  | cons entry rest ih =>
    obtain ⟨other, value⟩ := entry
    by_cases h : other = key
    · simp [mapValues, get?, h]
    · simpa [mapValues, get?, h] using ih

theorem keys_mapValues (f : α → β) (entries : Entries α) :
    keys (mapValues f entries) = keys entries := by
  rw [keys, mapValues, List.map_map]
  rfl

-- A look-up in entries that are made of the items of a list.
theorem get?_map (items : List β) (name : β → String) (value : β → α) (key : String) :
    get? (items.map fun item => (name item, value item)) key =
      (items.find? fun item => name item = key).map value := by
  induction items with
  | nil => rfl
  | cons item rest ih =>
    by_cases h : name item = key
    · simp [get?, h]
    · simpa [get?, h] using ih

theorem length_insert (entries : Entries α) (key : String) (value : α) :
    (insert entries key value).length =
      if key ∈ keys entries then entries.length else entries.length + 1 := by
  have h := congrArg List.length (keys_insert entries key value)
  rw [keys, List.length_map] at h
  rw [h]
  split <;> simp [keys]

theorem without_without (entries : Entries α) (names others : List String) :
    (entries.without names).without others = entries.without (names ++ others) := by
  rw [without, without, without, List.filter_filter]
  apply List.filter_congr
  intro entry _
  rw [List.contains_eq_mem, List.contains_eq_mem, List.contains_eq_mem]
  simp only [List.mem_append, Bool.decide_or, Bool.not_or, Bool.and_comm]

theorem without_insert_of_mem {names : List String} {key : String} (h : key ∈ names)
    (entries : Entries α) (value : α) :
    (insert entries key value).without names = entries.without names := by
  induction entries with
  | nil => simp [insert, without, h]
  | cons entry rest ih =>
    obtain ⟨other, old⟩ := entry
    by_cases hk : other = key
    · simp [insert, without, hk, h]
    · simp only [without] at ih
      simp only [insert, without, hk, if_false, List.filter_cons, ih]

theorem without_insert_of_notMem {names : List String} {key : String} (h : key ∉ names)
    (entries : Entries α) (value : α) :
    (insert entries key value).without names = insert (entries.without names) key value := by
  induction entries with
  | nil => simp [insert, without, h]
  | cons entry rest ih =>
    obtain ⟨other, old⟩ := entry
    by_cases hk : other = key
    · simp [insert, without, hk, h]
    · simp only [without] at ih
      simp only [insert, without, hk, if_false, List.filter_cons, ih]
      split <;> simp [insert, hk]

-- Names can be taken away before as well as after an extension.
theorem without_extend (entries : Entries α) (more : List (String × α)) (names : List String) :
    (extend entries more).without names = extend (entries.without names) (without more names) := by
  induction more generalizing entries with
  | nil => rfl
  | cons first rest ih =>
    show (extend (insert entries first.1 first.2) rest).without names = _
    rw [ih]
    by_cases h : first.1 ∈ names
    · have hrest : without (first :: rest) names = without rest names :=
        List.filter_cons_of_neg (by simpa using h)
      rw [without_insert_of_mem h, hrest]
    · have hrest : without (first :: rest) names = first :: without rest names :=
        List.filter_cons_of_pos (by simpa using h)
      rw [without_insert_of_notMem h, hrest]
      rfl

-- How many entries the maps in a map have together.
def size (table : Entries (Entries α)) : Nat := (table.flatMap Prod.snd).length

-- The map that comes in counts instead of the one that was there.
theorem size_insert (table : Entries (Entries α)) (key : String) (item : Entries α) :
    size (insert table key item) + ((get? table key).getD []).length =
      size table + item.length := by
  induction table with
  | nil => simp [insert, size, get?]
  | cons entry rest ih =>
    obtain ⟨other, old⟩ := entry
    by_cases h : other = key
    · simp only [insert, get?, size, if_pos h, List.flatMap_cons, List.length_append,
        Option.getD_some]
      omega
    · simp only [size] at ih
      simp only [insert, get?, size, if_neg h, List.flatMap_cons, List.length_append]
      omega

-- An insertion leaves every other entry at its place.
theorem getElem?_insert_of_ne {entries : Entries α} {i : Nat} {other key : String} {old : α}
    (h : entries[i]? = some (other, old)) (hne : other ≠ key) (value : α) :
    (insert entries key value)[i]? = some (other, old) := by
  induction entries generalizing i with
  | nil => simp at h
  | cons entry rest ih =>
    obtain ⟨first, kept⟩ := entry
    by_cases hk : first = key
    · cases i with
      | zero => simp_all
      | succ i => simpa [insert, hk] using h
    · cases i with
      | zero => simpa [insert, hk] using h
      | succ i => simpa [insert, hk] using ih (by simpa using h)

-- An entry that takes a new value stays at its place.
theorem getElem?_insert_self {entries : Entries α} (hd : Distinct entries) {i : Nat}
    {key : String} {old : α} (h : entries[i]? = some (key, old)) (value : α) :
    (insert entries key value)[i]? = some (key, value) := by
  induction entries generalizing i with
  | nil => simp at h
  | cons entry rest ih =>
    obtain ⟨first, kept⟩ := entry
    obtain ⟨hn, hd⟩ := List.nodup_cons.mp hd
    cases i with
    | zero =>
      obtain ⟨rfl, rfl⟩ : first = key ∧ kept = old := by simpa using h
      simp [insert]
    | succ i =>
      have hr : rest[i]? = some (key, old) := by simpa using h
      have hm : key ∈ keys rest := List.mem_map_of_mem (List.mem_of_getElem? hr)
      have hne : first ≠ key := fun he => hn (he ▸ hm)
      simpa [insert, hne] using ih hd hr

end Entries

end ApiDescription
