namespace ApiDescription.Text

-- The parts of a text between the marks.
def split (mark : Char) : List Char → List (List Char)
  | [] => [[]]
  | c :: rest =>
    match split mark rest with
    | [] => [[c]]
    | first :: others => if c = mark then [] :: first :: others else (c :: first) :: others

theorem split_eq_splitOn (mark : Char) (text : List Char) :
    split mark text = text.splitOn mark := by
  induction text with
  | nil => rfl
  | cons c rest ih =>
    rw [split, ih, List.splitOn_cons_eq_if_modifyHead]
    cases h : rest.splitOn mark with
    | nil => exact absurd h (List.splitOn_ne_nil mark rest)
    | cons first others => by_cases hc : c = mark <;> simp [hc]

end ApiDescription.Text
