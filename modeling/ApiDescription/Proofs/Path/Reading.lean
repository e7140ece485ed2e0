import ApiDescription.Proofs.Path.Pieces

namespace ApiDescription.Path

-- A name begins with an ASCII letter or an underscore, and digits may come later.

def BeginsName (c : Char) : Prop := c.isAlpha = true ∨ c = '_'

def GoesOnInName (c : Char) : Prop := c.isAlphanum = true ∨ c = '_'

-- A name that goes on as long as it can.
structure IsName (name rest : List Char) : Prop where
  begins : ∃ c ∈ name.head?, BeginsName c
  made : ∀ c ∈ name, GoesOnInName c
  ends : ∀ c ∈ rest.head?, ¬GoesOnInName c

-- A path read from left to right, the same text with every colon before a name taken away and the
-- name put between braces, and these names.
inductive Replaces : List Char → List Char → List String → Prop where
  | nil : Replaces [] [] []
  | placeholder {name rest text : List Char} {names : List String} (hname : IsName name rest)
    (h : Replaces rest text names) :
    Replaces (':' :: name ++ rest) ('\x7b' :: name ++ '\x7d' :: text)
      (String.ofList name :: names)
  | char {c : Char} {rest text : List Char} {names : List String}
    (hc : ¬(c = ':' ∧ ∃ first ∈ rest.head?, BeginsName first)) (h : Replaces rest text names) :
    Replaces (c :: rest) (c :: text) names

-- A text that is cut in front of its first question mark or number sign.
structure Cuts (text before rest : List Char) : Prop where
  joined : before ++ rest = text
  unmarked : ∀ c ∈ before, c ≠ '?' ∧ c ≠ '#'
  marked : ∀ c ∈ rest.head?, c = '?' ∨ c = '#'

theorem startsName_iff {c : Char} : startsName c = true ↔ BeginsName c := by
  have halpha : c.isAlpha = (decide ('A' ≤ c ∧ c ≤ 'Z') || ('a' ≤ c && c ≤ 'z')) := rfl
  rw [BeginsName, halpha, Bool.or_comm]
  simp [startsName]

theorem continuesName_iff {c : Char} : continuesName c = true ↔ GoesOnInName c := by
  have halphanum : c.isAlphanum = (c.isAlpha || ('0' ≤ c && c ≤ '9')) := rfl
  simp [continuesName, startsName_iff, BeginsName, GoesOnInName, halphanum, or_right_comm]

theorem nameFollows_iff {rest : List Char} :
    nameFollows rest = true ↔ ∃ c ∈ rest.head?, BeginsName c := by
  simp only [nameFollows, Option.any_eq_true, startsName_iff, Option.mem_def]

theorem IsName.pieces_append {name rest : List Char} (h : IsName name rest) :
    pieces (':' :: name ++ rest) = .placeholder name :: pieces rest := by
  have hall : ∀ c ∈ name, continuesName c = true := fun c hc => continuesName_iff.mpr (h.made c hc)
  have hstop : ∀ c ∈ rest.head?, continuesName c = false := fun c hc =>
    Bool.eq_false_iff.mpr fun hgoes => h.ends c hc (continuesName_iff.mp hgoes)
  have hread := pieces_placeholder (nameFollows_append (nameFollows_iff.mpr h.begins) rest)
  rwa [takeWhile_append_of_head hall hstop, dropWhile_append_of_head hall hstop] at hread

theorem not_continuesName_of_head_dropWhile (rest : List Char) :
    ∀ c ∈ (rest.dropWhile continuesName).head?, continuesName c = false := by
  intro c hc
  have hhead := List.head?_dropWhile_not continuesName rest
  rw [hc] at hhead
  exact hhead

theorem isName_takeWhile {rest : List Char} (h : nameFollows rest = true) :
    IsName (rest.takeWhile continuesName) (rest.dropWhile continuesName) where
  begins := nameFollows_iff.mp (nameFollows_takeWhile h)
  made c hc := continuesName_iff.mp (List.mem_takeWhile_imp hc)
  ends c hc hgoes := by
    have hstop := not_continuesName_of_head_dropWhile rest c hc
    rw [continuesName_iff.mpr hgoes] at hstop
    cases hstop

theorem replaces_pieces (path : List Char) :
    Replaces path ((pieces path).flatMap Piece.templated)
      (((pieces path).filterMap Piece.name?).map String.ofList) := by
  induction path using pieces_induction with
  | nil =>
    rw [pieces_nil]
    exact .nil
  | placeholder rest hrest ih =>
    have hplaceholder := Replaces.placeholder (isName_takeWhile hrest) ih
    rw [List.cons_append, List.takeWhile_append_dropWhile] at hplaceholder
    rw [pieces_placeholder hrest]
    simpa [Piece.templated, Piece.name?] using hplaceholder
  | char c rest hrest ih =>
    rw [pieces_char hrest]
    rw [nameFollows_iff] at hrest
    exact .char hrest ih

-- There is one way to read a path.
theorem replaces_iff {path text : List Char} {names : List String} :
    Replaces path text names ↔
      text = templatedChars path ∧ names = (placeholderNames path).map String.ofList := by
  rw [templatedChars, placeholderNames]
  constructor
  · intro h
    induction h with
    | nil => simp [pieces_nil]
    | placeholder hname _ ih =>
      obtain ⟨rfl, rfl⟩ := ih
      rw [hname.pieces_append]
      simp [Piece.templated, Piece.name?]
    | char hc _ ih =>
      obtain ⟨rfl, rfl⟩ := ih
      rw [← nameFollows_iff] at hc
      rw [pieces_char hc]
      exact ⟨rfl, rfl⟩
  · rintro ⟨rfl, rfl⟩
    exact replaces_pieces path

theorem written_pieces (path : List Char) : (pieces path).flatMap Piece.written = path := by
  induction path using pieces_induction with
  | nil => rw [pieces_nil, List.flatMap_nil]
  | placeholder rest hrest ih =>
    rw [pieces_placeholder hrest, List.flatMap_cons, ih, Piece.written, List.cons_append,
      List.takeWhile_append_dropWhile]
  | char c rest hrest ih =>
    rw [pieces_char hrest, List.flatMap_cons, ih]
    rfl

theorem not_endsPath_of_mem_routeChars {path : List Char} {c : Char} (h : c ∈ routeChars path) :
    endsPath c = false := by
  have hc := List.mem_takeWhile_imp h
  simpa using hc

theorem routeChars_append {before : List Char} (h : ∀ c ∈ before, endsPath c = false)
    (after : List Char) : routeChars (before ++ after) = before ++ routeChars after :=
  List.takeWhile_append_of_pos fun c hc => by rw [h c hc]; rfl

theorem routeChars_eq_self {path : List Char} (h : ∀ c ∈ path, endsPath c = false) :
    routeChars path = path := by
  have hpath := routeChars_append h []
  rwa [List.append_nil, routeChars, routeChars, List.takeWhile_nil, List.append_nil] at hpath

theorem mem_templated {piece : Piece} {c : Char} (h : c ∈ piece.templated) :
    c ∈ piece.written ∨ c = '\x7b' ∨ c = '\x7d' := by
  cases piece with
  | char other => exact .inl h
  | placeholder name =>
    have hc : c = '\x7b' ∨ c ∈ name ∨ c = '\x7d' := by simpa [Piece.templated] using h
    rcases hc with hc | hc | hc
    · exact .inr (.inl hc)
    · exact .inl (List.mem_cons_of_mem _ hc)
    · exact .inr (.inr hc)

theorem mem_of_mem_written {path : List Char} {piece : Piece} {c : Char}
    (hpiece : piece ∈ pieces path) (hc : c ∈ piece.written) : c ∈ path := by
  rw [← written_pieces path]
  exact List.mem_flatMap.mpr ⟨piece, hpiece, hc⟩

-- Templating adds braces, and no other character.
theorem mem_templatedChars {path : List Char} {c : Char} (h : c ∈ templatedChars path) :
    c ∈ path ∨ c = '\x7b' ∨ c = '\x7d' := by
  obtain ⟨piece, hpiece, hc⟩ := List.mem_flatMap.mp h
  exact (mem_templated hc).imp_left (mem_of_mem_written hpiece)

theorem mem_of_mem_erasedChars {path : List Char} {c : Char} (h : c ∈ erasedChars path) :
    c ∈ path := by
  obtain ⟨piece, hpiece, hc⟩ := List.mem_flatMap.mp h
  refine mem_of_mem_written hpiece ?_
  cases piece with
  | char other => exact hc
  | placeholder name => cases hc

theorem not_endsPath_of_mem_templatedChars {path : List Char} {c : Char}
    (h : c ∈ templatedChars (routeChars path)) : endsPath c = false := by
  rcases mem_templatedChars h with hc | rfl | rfl
  · exact not_endsPath_of_mem_routeChars hc
  · decide
  · decide

-- The mark at which a path is cut stays where it is in front of the rest.
theorem routeChars_templatedChars_suffixChars (path : List Char) :
    routeChars (templatedChars (suffixChars path)) = [] := by
  cases h : suffixChars path with
  | nil => rw [templatedChars, pieces_nil, List.flatMap_nil, routeChars, List.takeWhile_nil]
  | cons stop rest =>
    have hends := endsPath_of_suffixChars h
    have hcolon : stop ≠ ':' := by
      rintro rfl
      exact absurd hends (by decide)
    have hchars : templatedChars (stop :: rest) = stop :: templatedChars rest := by
      rw [templatedChars, pieces_char_of_ne hcolon]
      rfl
    rw [hchars, routeChars, List.takeWhile_cons_of_neg (by simp [hends])]

-- Whether a path is cut first or templated first, the template is the same.
theorem routeChars_templatedChars (path : List Char) :
    routeChars (templatedChars path) = templatedChars (routeChars path) := by
  have hsplit : templatedChars path =
      templatedChars (routeChars path) ++ templatedChars (suffixChars path) := by
    rw [templatedChars, pieces_route_suffix, List.flatMap_append]
    rfl
  have hroute : ∀ c ∈ templatedChars (routeChars path), endsPath c = false :=
    fun c hc => not_endsPath_of_mem_templatedChars hc
  rw [hsplit, routeChars_append hroute, routeChars_templatedChars_suffixChars, List.append_nil]

theorem route_route (path : String) : route (route path) = route path := by
  have hroute : routeChars (routeChars path.toList) = routeChars path.toList :=
    routeChars_eq_self fun c hc => not_endsPath_of_mem_routeChars hc
  rw [route, route, String.toList_ofList, hroute]

theorem endsPath_iff {c : Char} : endsPath c = true ↔ c = '?' ∨ c = '#' := by
  simp [endsPath]

theorem endsPath_eq_false_iff {c : Char} : endsPath c = false ↔ c ≠ '?' ∧ c ≠ '#' := by
  rw [← Bool.not_eq_true, endsPath_iff, not_or]

-- There is one way to cut a text.
theorem cuts_iff {text before rest : List Char} :
    Cuts text before rest ↔ before = routeChars text ∧ rest = suffixChars text := by
  constructor
  · rintro ⟨rfl, hbefore, hrest⟩
    have hall : ∀ c ∈ before, (!endsPath c) = true := fun c hc => by
      rw [endsPath_eq_false_iff.mpr (hbefore c hc), Bool.not_false]
    have hstop : ∀ c ∈ rest.head?, (!endsPath c) = false := fun c hc => by
      rw [endsPath_iff.mpr (hrest c hc), Bool.not_true]
    exact ⟨(takeWhile_append_of_head hall hstop).symm, (dropWhile_append_of_head hall hstop).symm⟩
  · rintro ⟨rfl, rfl⟩
    refine ⟨List.takeWhile_append_dropWhile, fun c hc => ?_, fun c hc => ?_⟩
    · exact endsPath_eq_false_iff.mp (not_endsPath_of_mem_routeChars hc)
    · obtain ⟨more, hmore⟩ := List.head?_eq_some_iff.mp hc
      exact endsPath_iff.mp (endsPath_of_suffixChars hmore)

-- Whether a path is read first and cut then or the other way round, an analysis says the same. Its
-- placeholders are those before the cut, followed by those from there on.
theorem templated_then_cut (path : String) :
    ∃ replaced before rest : String,
      (∀ text names, Replaces path.toList text names ↔
        text = replaced.toList ∧ names = (analyze path).placeholders) ∧
      (∀ front back, Cuts path.toList front back ↔
        front = before.toList ∧ back = rest.toList) ∧
      (∃ back, Cuts replaced.toList (analyze path).templated.toList back) ∧
      Replaces before.toList (analyze path).templated.toList (analyze before).placeholders ∧
      (analyze path).placeholders =
        (analyze before).placeholders ++ (analyze rest).placeholders := by
  refine ⟨String.ofList (templatedChars path.toList), route path, suffix path, fun text names => ?_,
    fun front back => ?_, ⟨suffixChars (templatedChars path.toList), ?_⟩, ?_,
    placeholders_route_suffix path⟩
  · rw [String.toList_ofList]
    exact replaces_iff
  · rw [route, suffix, String.toList_ofList, String.toList_ofList]
    exact cuts_iff
  · rw [String.toList_ofList, cuts_iff, routeChars_templatedChars, analyze, String.toList_ofList]
    exact ⟨rfl, rfl⟩
  · rw [route, replaces_iff, analyze, analyze, String.toList_ofList, String.toList_ofList]
    exact ⟨rfl, rfl⟩

def markedPath : String := "/a::b:9:c#:d?:e"

def markedReplaced : String := "/a:\x7bb\x7d:9\x7bc\x7d#\x7bd\x7d?\x7be\x7d"

-- Colons, digits and marks around names that end at the cut.
theorem templated_then_cut_marked :
    Replaces markedPath.toList markedReplaced.toList ["b", "c", "d", "e"] ∧
    Cuts markedPath.toList "/a::b:9:c".toList "#:d?:e".toList ∧
    (∃ back, Cuts markedReplaced.toList (analyze markedPath).templated.toList back) ∧
    analyze markedPath = ⟨"/a:\x7bb\x7d:9\x7bc\x7d", ["b", "c", "d", "e"]⟩ ∧
    (analyze markedPath).placeholders =
      (analyze "/a::b:9:c").placeholders ++ (analyze "#:d?:e").placeholders := by
  obtain ⟨replaced, before, rest, hreplaces, hcuts, ⟨back, hback⟩, -, hsplit⟩ :=
    templated_then_cut markedPath
  have hread : Replaces markedPath.toList markedReplaced.toList ["b", "c", "d", "e"] :=
    replaces_iff.mpr ⟨by decide +kernel, by decide +kernel⟩
  have hcut : Cuts markedPath.toList "/a::b:9:c".toList "#:d?:e".toList :=
    cuts_iff.mpr ⟨by decide +kernel, by decide +kernel⟩
  obtain ⟨htext, -⟩ := (hreplaces _ _).mp hread
  obtain ⟨hfront, hrest⟩ := (hcuts _ _).mp hcut
  obtain rfl := String.toList_inj.mp hfront
  obtain rfl := String.toList_inj.mp hrest
  exact ⟨hread, hcut, ⟨back, htext ▸ hback⟩, by decide +kernel, hsplit⟩

end ApiDescription.Path
