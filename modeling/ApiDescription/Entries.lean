namespace ApiDescription

-- An ordered map: keys with their values, in the order in which the keys first came.
-- Every operation below keeps the keys distinct.
abbrev Entries (α : Type u) := List (String × α)

namespace Entries

variable {α : Type u} {β : Type v}

def keys (entries : Entries α) : List String := entries.map Prod.fst

def Distinct (entries : Entries α) : Prop := entries.keys.Nodup

instance (entries : Entries α) : Decidable entries.Distinct :=
  inferInstanceAs (Decidable (List.Nodup _))

def get? : Entries α → String → Option α
  | [], _ => none
  | (key, value) :: rest, wanted => if key = wanted then some value else get? rest wanted

def contains (entries : Entries α) (key : String) : Bool := (get? entries key).isSome

-- A key that is there keeps its place and takes the new value; a new key goes to the end.
def insert : Entries α → String → α → Entries α
  | [], key, value => [(key, value)]
  | (other, old) :: rest, key, value =>
    if other = key then (key, value) :: rest else (other, old) :: insert rest key value

def extend (entries : Entries α) (more : List (String × α)) : Entries α :=
  more.foldl (fun acc entry => insert acc entry.1 entry.2) entries

def ofList (pairs : List (String × α)) : Entries α := extend [] pairs

def without (entries : Entries α) (names : List String) : Entries α :=
  entries.filter fun entry => !names.contains entry.1

def mapValues (f : α → β) (entries : Entries α) : Entries β :=
  entries.map fun entry => (entry.1, f entry.2)

theorem get?_nil (key : String) : get? ([] : Entries α) key = none := rfl

theorem get?_insert (entries : Entries α) (key other : String) (value : α) :
    get? (insert entries key value) other =
      if key = other then some value else get? entries other := by
  induction entries with
  | nil => simp [insert, get?]
  | cons entry rest ih =>
    obtain ⟨first, old⟩ := entry
    by_cases hk : first = key
    · subst hk
      by_cases ho : first = other <;> simp [insert, get?, ho]
    · by_cases ho : first = other
      · subst ho
        simp [insert, get?, hk, Ne.symm hk]
      · simp [insert, get?, hk, ho, ih]

-- The keys after an insertion: nothing moves, and only a new key is added.
theorem keys_insert (entries : Entries α) (key : String) (value : α) :
    keys (insert entries key value) =
      if key ∈ keys entries then keys entries else keys entries ++ [key] := by
  induction entries with
  | nil => simp [insert, keys]
  | cons entry rest ih =>
    obtain ⟨first, old⟩ := entry
    by_cases hk : first = key
    · subst hk
      simp [insert, keys]
    · simp only [insert, hk, if_false, keys, List.map_cons, List.mem_cons, Ne.symm hk, false_or]
      simp only [keys] at ih
      rw [ih]
      by_cases hm : key ∈ List.map Prod.fst rest <;> simp [hm]

theorem distinct_insert {entries : Entries α} (h : Distinct entries) (key : String) (value : α) :
    Distinct (insert entries key value) := by
  unfold Distinct at h ⊢
  rw [keys_insert]
  split
  · exact h
  · rename_i hk
    rw [List.nodup_append]
    refine ⟨h, by simp, ?_⟩
    intro a ha b hb
    have : b = key := by simpa using hb
    subst this
    intro he
    subst he
    exact hk ha

end Entries

end ApiDescription
