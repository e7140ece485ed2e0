import ApiDescription.Files.Name
import ApiDescription.Proofs.Text.Split

namespace ApiDescription.Files

-- The steps that lead somewhere.
def leading (names : List String) : List String := names.filter fun name => !isIdle name

theorem leading_cons_of_isIdle {name : String} (h : isIdle name = true) (rest : List String) :
    leading (name :: rest) = leading rest :=
  List.filter_cons_of_neg (by simp [h])

theorem leading_cons_of_leads {name : String} (h : isIdle name = false) (rest : List String) :
    leading (name :: rest) = name :: leading rest :=
  List.filter_cons_of_pos (by simp [h])

theorem leading_append (front back : List String) :
    leading (front ++ back) = leading front ++ leading back :=
  List.filter_append front back

theorem leading_leading (names : List String) : leading (leading names) = leading names := by
  simp [leading, List.filter_filter]

theorem leading_cons_leading (name : String) (rest : List String) :
    leading (name :: leading rest) = leading (name :: rest) := by
  simp [leading, List.filter_cons, List.filter_filter]

theorem leading_subset (names : List String) : leading names ⊆ names :=
  List.filter_sublist.subset

theorem exists_steps_eq (name : String) : ∃ front last, steps name = front ++ [last] := by
  have hne : steps name ≠ [] := by
    rw [steps, Text.split_eq_splitOn, ne_eq, List.map_eq_nil_iff]
    exact List.splitOn_ne_nil '/' name.toList
  exact ⟨_, _, (List.dropLast_concat_getLast hne).symm⟩

-- No step has a slash, so some steps of a name put together can be read off again.
theorem steps_intercalate {name : String} {names : List String} (hne : names ≠ [])
    (hsteps : names ⊆ steps name) : steps ("/".intercalate names) = names := by
  have hslash : ∀ part ∈ names.map String.toList, '/' ∉ part := by
    refine List.forall_mem_map.mpr fun step hm => ?_
    obtain ⟨part, hpart, rfl⟩ := List.mem_map.mp (hsteps hm)
    rw [Text.split_eq_splitOn] at hpart
    rw [String.toList_ofList]
    exact (Text.of_mem_splitOn hpart).1
  rw [steps, Text.split_eq_splitOn, String.toList_intercalate]
  change ((['/'].intercalate (names.map String.toList)).splitOn '/').map String.ofList = names
  rw [List.splitOn_intercalate '/' hslash (by simpa using hne), List.map_map]
  exact List.map_id'' (fun name => String.ofList_toList) names

theorem steps_slash_append (name : String) : steps ("/" ++ name) = "" :: steps name := by
  have hparts : Text.split '/' ('/' :: name.toList) = [] :: Text.split '/' name.toList := by
    rw [Text.split_eq_splitOn, Text.split_eq_splitOn, List.splitOn_cons_eq_if_modifyHead]
    rfl
  rw [steps, steps, String.toList_append]
  exact congrArg (List.map String.ofList) hparts

theorem isAbsolute_slash_append (name : String) : isAbsolute ("/" ++ name) = true := by
  rw [isAbsolute, String.toList_append]
  rfl

-- A name begins with a slash if the first of several steps is empty.
theorem isAbsolute_iff (name : String) :
    isAbsolute name = true ↔ ∃ second rest, steps name = "" :: second :: rest := by
  rw [isAbsolute, steps, Text.split_eq_splitOn]
  cases name.toList with
  | nil => simp
  | cons c rest =>
    rw [List.splitOn_cons_eq_if_modifyHead]
    cases h : rest.splitOn '/' with
    | nil => exact absurd h (List.splitOn_ne_nil '/' rest)
    | cons first others => by_cases hc : c = '/' <;> simp [hc]

section

variable {name first last : String} {more : List String}

theorem isAbsolute_iff_of_steps (hsteps : steps name = first :: (more ++ [last])) :
    isAbsolute name = true ↔ first = "" := by
  rw [isAbsolute_iff, hsteps]
  cases more <;> simp

theorem dropLast_components (hsteps : steps name = first :: (more ++ [last]))
    (hlast : isIdle last = false) :
    (components name).dropLast = (if first = "" then [] else [first]) ++ leading more := by
  have hcomponents : components name =
      ((if first = "" then [] else [first]) ++ leading more) ++ [last] := by
    rw [components, hsteps, List.append_assoc]
    change _ ++ leading (more ++ [last]) = _
    rw [leading_append, leading_cons_of_leads hlast]
    rfl
  rw [hcomponents, List.dropLast_concat]

end

-- A name of one step tells no folder.
theorem folder?_of_steps_eq_singleton {name last : String} (hsteps : steps name = [last]) :
    folder? name = none := by
  have hrelative : ¬isAbsolute name = true := by
    rw [isAbsolute_iff, hsteps]
    simp
  have hway : (components name).dropLast = [] := by
    rw [components, hsteps]
    by_cases h : last = "" <;> simp [h]
  rw [folder?, if_neg hrelative, hway]
  rfl

-- The name of a file's folder leads to where the steps before the file's own lead.
theorem leading_steps_folder? {name folder last : String} {front : List String}
    (hfolder : folder? name = some folder) (hsteps : steps name = front ++ [last])
    (hlast : isIdle last = false) :
    isAbsolute folder = isAbsolute name ∧ leading (steps folder) = leading front := by
  cases front with
  | nil => exact absurd hfolder (by simp [folder?_of_steps_eq_singleton hsteps])
  | cons first more =>
    have hway := dropLast_components hsteps hlast
    have hsubset : first :: leading more ⊆ steps name := by
      rw [hsteps]
      exact List.Subset.trans (List.cons_subset_cons first (leading_subset more))
        (List.subset_append_left _ _)
    by_cases hfirst : first = ""
    · have habsolute : isAbsolute name = true := (isAbsolute_iff_of_steps hsteps).mpr hfirst
      rw [folder?, if_pos habsolute, hway, if_pos hfirst, List.nil_append] at hfolder
      obtain rfl := Option.some.inj hfolder
      refine ⟨by rw [isAbsolute_slash_append, habsolute], ?_⟩
      rw [steps_slash_append, hfirst, leading_cons_of_isIdle rfl, leading_cons_of_isIdle rfl]
      by_cases hnone : leading more = []
      · rw [hnone]
        rfl
      · rw [steps_intercalate hnone (List.cons_subset.mp hsubset).2, leading_leading]
    · have hrelative : ¬isAbsolute name = true :=
        fun h => hfirst ((isAbsolute_iff_of_steps hsteps).mp h)
      have hread := steps_intercalate (List.cons_ne_nil _ _) hsubset
      rw [folder?, if_neg hrelative, hway, if_neg hfirst, List.singleton_append] at hfolder
      obtain rfl : "/".intercalate (first :: leading more) = folder := by
        by_cases h : "/".intercalate (first :: leading more) = ""
        · simp [h] at hfolder
        · simpa [h] using hfolder
      refine ⟨?_, by rw [hread, leading_cons_leading]⟩
      rw [Bool.eq_iff_iff, isAbsolute_iff, hread]
      simp [hfirst, hrelative]

end ApiDescription.Files
