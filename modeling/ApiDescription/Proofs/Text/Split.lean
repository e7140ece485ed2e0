import ApiDescription.Text.Split

namespace ApiDescription.Text

-- Induction from mark to mark.
@[elab_as_elim]
theorem splitOn_induction {motive : List Char → Prop} (mark : Char) (text : List Char)
    (whole : ∀ text, mark ∉ text → motive text)
    (cut : ∀ part rest, mark ∉ part → motive rest → motive (part ++ mark :: rest)) :
    motive text := by
  induction hn : text.length using Nat.strongRecOn generalizing text with
  | ind n ih =>
    subst hn
    by_cases h : mark ∈ text
    · obtain ⟨part, rest, rfl, hpart⟩ := List.eq_append_cons_of_mem h
      refine cut part rest hpart (ih _ ?_ rest rfl)
      rw [List.length_append, List.length_cons]
      omega
    · exact whole text h

-- No part of a text has a mark, and none has a character that is not of the text.
theorem of_mem_splitOn {mark : Char} {text part : List Char} (h : part ∈ text.splitOn mark) :
    mark ∉ part ∧ ∀ c ∈ part, c ∈ text := by
  induction text using splitOn_induction mark with
  | whole text hmark =>
    rw [List.splitOn_eq_singleton hmark] at h
    obtain rfl := List.mem_singleton.mp h
    exact ⟨hmark, fun c hc => hc⟩
  | cut first rest hmark ih =>
    rw [List.splitOn_append_cons_self_of_not_mem hmark] at h
    rcases List.mem_cons.mp h with rfl | hm
    · exact ⟨hmark, fun c hc => List.mem_append_left _ hc⟩
    · obtain ⟨hpart, hall⟩ := ih hm
      exact ⟨hpart, fun c hc => List.mem_append_right _ (List.mem_cons_of_mem _ (hall c hc))⟩

end ApiDescription.Text
