import ApiDescription.Path.Template
import Mathlib.Data.List.TakeWhile

namespace ApiDescription.Path

-- Whether a name comes next.
def nameFollows (rest : List Char) : Bool := rest.head?.any startsName

theorem continuesName_of_startsName {c : Char} (h : startsName c = true) :
    continuesName c = true := by
  simp [continuesName, h]

theorem not_startsName_of_not_continuesName {c : Char} (h : continuesName c = false) :
    startsName c = false := by
  rw [← Bool.not_eq_true] at h ⊢
  exact fun hc => h (continuesName_of_startsName hc)

theorem pieces_nil : pieces [] = [] := by rw [pieces]

theorem pieces_placeholder {rest : List Char} (h : nameFollows rest = true) :
    pieces (':' :: rest) =
      .placeholder (rest.takeWhile continuesName) :: pieces (rest.dropWhile continuesName) := by
  cases rest with
  | nil => cases h
  | cons first rest =>
    have hfirst : startsName first = true := h
    have hc := continuesName_of_startsName hfirst
    rw [pieces, if_pos hfirst, List.takeWhile_cons_of_pos hc, List.dropWhile_cons_of_pos hc]

theorem pieces_char {c : Char} {rest : List Char} (h : ¬(c = ':' ∧ nameFollows rest = true)) :
    pieces (c :: rest) = .char c :: pieces rest := by
  rw [pieces.eq_def]
  split
  · contradiction
  · rename_i first more heq
    cases heq
    exact if_neg fun hfirst => h ⟨rfl, hfirst⟩
  · rename_i heq
    cases heq
    rfl

theorem pieces_char_of_ne {c : Char} (h : c ≠ ':') (rest : List Char) :
    pieces (c :: rest) = .char c :: pieces rest :=
  pieces_char fun hc => h hc.1

-- Induction from piece to piece.
@[elab_as_elim]
theorem pieces_induction {motive : List Char → Prop} (path : List Char) (nil : motive [])
    (placeholder : ∀ rest, nameFollows rest = true → motive (rest.dropWhile continuesName) →
      motive (':' :: rest))
    (char : ∀ c rest, ¬(c = ':' ∧ nameFollows rest = true) → motive rest → motive (c :: rest)) :
    motive path := by
  induction hn : path.length using Nat.strong_induction_on generalizing path with
  | _ n ih =>
    subst hn
    cases path with
    | nil => exact nil
    | cons c rest =>
      by_cases h : c = ':' ∧ nameFollows rest = true
      · obtain ⟨rfl, h⟩ := h
        have hle := (List.dropWhile_sublist continuesName (l := rest)).length_le
        exact placeholder rest h (ih _ (Nat.lt_succ_of_le hle) _ rfl)
      · exact char c rest h (ih _ (Nat.lt_succ_self _) _ rfl)

theorem takeWhile_append_stop {p : Char → Bool} {stop : Char} (h : p stop = false)
    (before rest : List Char) :
    (before ++ stop :: rest).takeWhile p = before.takeWhile p := by
  induction before with
  | nil => simp [h]
  | cons c before ih =>
    by_cases hc : p c = true
    · simp [hc, ih]
    · simp [hc]

theorem dropWhile_append_stop {p : Char → Bool} {stop : Char} (h : p stop = false)
    (before rest : List Char) :
    (before ++ stop :: rest).dropWhile p = before.dropWhile p ++ stop :: rest := by
  induction before with
  | nil => simp [h]
  | cons c before ih =>
    by_cases hc : p c = true
    · simp [hc, ih]
    · simp [hc]

-- A name does not reach over a character that is not of names, so that the pieces of a path are
-- those before and those from there on.
theorem pieces_append {stop : Char} (h : continuesName stop = false) (before rest : List Char) :
    pieces (before ++ stop :: rest) = pieces before ++ pieces (stop :: rest) := by
  have hstarts := not_startsName_of_not_continuesName h
  have hfollows : ∀ more, nameFollows (more ++ stop :: rest) = nameFollows more := by
    intro more
    cases more <;> simp [nameFollows, hstarts]
  induction before using pieces_induction with
  | nil => rw [pieces_nil, List.nil_append, List.nil_append]
  | placeholder more hmore ih =>
    have hm : nameFollows (more ++ stop :: rest) = true := by rw [hfollows, hmore]
    rw [List.cons_append, pieces_placeholder hm, pieces_placeholder hmore,
      takeWhile_append_stop h, dropWhile_append_stop h, ih]
    rfl
  | char c more hmore ih =>
    have hm : ¬(c = ':' ∧ nameFollows (more ++ stop :: rest) = true) := by rwa [hfollows]
    rw [List.cons_append, pieces_char hm, pieces_char hmore, ih]
    rfl

theorem nameFollows_append {name : List Char} (h : nameFollows name = true) (rest : List Char) :
    nameFollows (name ++ rest) = true := by
  cases name with
  | nil => cases h
  | cons first more => exact h

-- Where characters of one kind are followed by one of another kind or by none, they are all that is
-- taken.
theorem takeWhile_append_of_head {p : Char → Bool} {taken rest : List Char}
    (hall : ∀ c ∈ taken, p c = true) (hstop : ∀ c ∈ rest.head?, p c = false) :
    (taken ++ rest).takeWhile p = taken := by
  have hrest : rest.takeWhile p = [] := by
    cases rest with
    | nil => rfl
    | cons c more => exact List.takeWhile_cons_of_neg (by simp [hstop c rfl])
  rw [List.takeWhile_append_of_pos hall, hrest, List.append_nil]

theorem dropWhile_append_of_head {p : Char → Bool} {taken rest : List Char}
    (hall : ∀ c ∈ taken, p c = true) (hstop : ∀ c ∈ rest.head?, p c = false) :
    (taken ++ rest).dropWhile p = rest := by
  rw [List.dropWhile_append_of_pos hall]
  cases rest with
  | nil => rfl
  | cons c more => exact List.dropWhile_cons_of_neg (by simp [hstop c rfl])

theorem endsPath_not_continuesName {c : Char} (h : endsPath c = true) :
    continuesName c = false := by
  simp only [endsPath, Bool.or_eq_true, decide_eq_true_eq] at h
  rcases h with rfl | rfl <;> decide

-- The query and the fragment of a path, each with its mark.
def suffixChars (path : List Char) : List Char := path.dropWhile fun c => !endsPath c

def suffix (path : String) : String := String.ofList (suffixChars path.toList)

theorem endsPath_of_suffixChars {path rest : List Char} {stop : Char}
    (h : suffixChars path = stop :: rest) : endsPath stop = true := by
  have hhead := List.head?_dropWhile_not (fun c => !endsPath c) path
  rw [← suffixChars, h] at hhead
  simpa using hhead

theorem pieces_route_suffix (path : List Char) :
    pieces path = pieces (routeChars path) ++ pieces (suffixChars path) := by
  have hpath : routeChars path ++ suffixChars path = path := List.takeWhile_append_dropWhile
  have hsplit : pieces (routeChars path ++ suffixChars path) =
      pieces (routeChars path) ++ pieces (suffixChars path) := by
    cases h : suffixChars path with
    | nil => rw [List.append_nil, pieces_nil, List.append_nil]
    | cons stop rest =>
      exact pieces_append (endsPath_not_continuesName (endsPath_of_suffixChars h)) _ _
  rwa [hpath] at hsplit

-- The placeholders of a path are those of its route, then those of its query and its fragment.
theorem placeholders_route_suffix (path : String) :
    (analyze path).placeholders =
      (analyze (route path)).placeholders ++ (analyze (suffix path)).placeholders := by
  simp only [analyze, route, suffix, String.toList_ofList, placeholderNames, ← List.map_append,
    ← List.filterMap_append, ← pieces_route_suffix]

-- A template in pieces: a name between braces stands for a value, all else for itself.
def templatePieces : List Char → List Piece
  | [] => []
  | c :: rest =>
    if c = '\x7b' ∧ nameFollows rest = true ∧
        (rest.dropWhile continuesName).head? = some '\x7d' then
      .placeholder (rest.takeWhile continuesName) ::
        templatePieces (rest.dropWhile continuesName).tail
    else .char c :: templatePieces rest
termination_by template => template.length
decreasing_by
  all_goals simp only [List.length_cons]
  · have := (List.dropWhile_sublist continuesName (l := rest)).length_le
    have := (List.dropWhile continuesName rest).length_tail
    omega
  · omega

theorem nameFollows_takeWhile {rest : List Char} (h : nameFollows rest = true) :
    nameFollows (rest.takeWhile continuesName) = true := by
  cases rest with
  | nil => cases h
  | cons first more =>
    rw [List.takeWhile_cons_of_pos (continuesName_of_startsName h)]
    exact h

-- A piece that a template shows as what it is.
def Piece.Plain : Piece → Prop
  | char c => c ≠ '\x7b'
  | placeholder name => nameFollows name = true ∧ ∀ c ∈ name, continuesName c = true

theorem plain_of_mem_pieces {path : List Char} (h : '\x7b' ∉ path) :
    ∀ piece ∈ pieces path, piece.Plain := by
  induction path using pieces_induction with
  | nil => simp [pieces_nil]
  | placeholder rest hrest ih =>
    rw [pieces_placeholder hrest, List.forall_mem_cons]
    have hmore : '\x7b' ∉ rest.dropWhile continuesName := fun hm =>
      h (List.mem_cons_of_mem _ ((List.dropWhile_sublist _).subset hm))
    exact ⟨⟨nameFollows_takeWhile hrest, fun c hc => List.mem_takeWhile_imp hc⟩, ih hmore⟩
  | char c rest hrest ih =>
    rw [pieces_char hrest, List.forall_mem_cons]
    obtain ⟨hc, hr⟩ : '\x7b' ≠ c ∧ '\x7b' ∉ rest := by simpa using h
    exact ⟨Ne.symm hc, ih hr⟩

theorem templatePieces_char {c : Char} (h : c ≠ '\x7b') (rest : List Char) :
    templatePieces (c :: rest) = .char c :: templatePieces rest := by
  rw [templatePieces, if_neg fun hc => h hc.1]

theorem templatePieces_placeholder {name : List Char} (hname : nameFollows name = true)
    (hall : ∀ c ∈ name, continuesName c = true) (rest : List Char) :
    templatePieces ('\x7b' :: name ++ '\x7d' :: rest) =
      .placeholder name :: templatePieces rest := by
  have hstop : ∀ c ∈ ('\x7d' :: rest).head?, continuesName c = false := by
    rintro _ ⟨⟩
    decide
  have htake := takeWhile_append_of_head hall hstop
  have hdrop := dropWhile_append_of_head hall hstop
  have hfollows := nameFollows_append hname ('\x7d' :: rest)
  rw [List.cons_append, templatePieces, htake, hdrop, if_pos ⟨rfl, hfollows, rfl⟩]
  rfl

-- What a template was made of can be read back from it.
theorem templatePieces_templated {ps : List Piece} (h : ∀ piece ∈ ps, piece.Plain) :
    templatePieces (ps.flatMap Piece.templated) = ps := by
  induction ps with
  | nil => rw [List.flatMap_nil, templatePieces]
  | cons piece rest ih =>
    obtain ⟨hpiece, hrest⟩ := List.forall_mem_cons.mp h
    rw [List.flatMap_cons]
    cases piece with
    | char c =>
      have hread := templatePieces_char hpiece (rest.flatMap Piece.templated)
      rw [ih hrest] at hread
      exact hread
    | placeholder name =>
      have hread := templatePieces_placeholder hpiece.1 hpiece.2 (rest.flatMap Piece.templated)
      rw [ih hrest] at hread
      simpa [Piece.templated] using hread

-- The template of a path is read as the pieces of its route.
theorem templatePieces_analyze {path : String} (h : '\x7b' ∉ path.toList) :
    templatePieces (analyze path).templated.toList = pieces (route path).toList := by
  have hroute : '\x7b' ∉ routeChars path.toList := fun hm =>
    h ((List.takeWhile_sublist _).subset hm)
  rw [analyze, route, String.toList_ofList, String.toList_ofList, templatedChars,
    templatePieces_templated (plain_of_mem_pieces hroute)]

-- The names between the braces of a template.
def tokens (template : String) : List String :=
  ((templatePieces template.toList).filterMap Piece.name?).map String.ofList

-- A template shows the placeholders of the route, each where it was.
theorem tokens_templated {path : String} (h : '\x7b' ∉ path.toList) :
    tokens (analyze path).templated = (analyze (route path)).placeholders := by
  rw [tokens, templatePieces_analyze h]
  rfl

end ApiDescription.Path
