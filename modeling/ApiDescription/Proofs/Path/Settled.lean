import ApiDescription.Proofs.Path.Reading
import Mathlib.Data.List.Chain

namespace ApiDescription.Path

-- Whether a text is free of placeholders: no colon stands before a character that begins a name.
def Settled (text : List Char) : Prop :=
  text.IsChain fun c next => c = ':' → startsName next = false

instance (text : List Char) : Decidable (Settled text) :=
  inferInstanceAs (Decidable (List.IsChain ..))

example : Settled "/::/:9/a:".toList ∧ ¬Settled "/::id".toList := by decide

theorem settled_cons_iff {c : Char} {rest : List Char} :
    Settled (c :: rest) ↔ ¬(c = ':' ∧ nameFollows rest = true) ∧ Settled rest := by
  rw [Settled, List.isChain_cons]
  refine and_congr_left fun _ => ?_
  cases rest with
  | nil => simp [nameFollows]
  | cons next more => simp [nameFollows]

theorem settled_append {text rest : List Char} (h : ':' ∉ text) (hrest : Settled rest) :
    Settled (text ++ rest) := by
  induction text with
  | nil => exact hrest
  | cons c text ih =>
    obtain ⟨hc, htext⟩ : ':' ≠ c ∧ ':' ∉ text := by simpa using h
    rw [List.cons_append, settled_cons_iff]
    exact ⟨fun hcolon => hc hcolon.1.symm, ih htext⟩

theorem pieces_of_settled {text : List Char} (h : Settled text) :
    pieces text = text.map Piece.char := by
  induction text with
  | nil => exact pieces_nil
  | cons c rest ih =>
    obtain ⟨hc, hrest⟩ := settled_cons_iff.mp h
    rw [pieces_char hc, ih hrest, List.map_cons]

theorem templatedChars_of_settled {text : List Char} (h : Settled text) :
    templatedChars text = text := by
  rw [templatedChars, pieces_of_settled h, List.flatMap_map]
  exact List.flatMap_singleton' text

theorem placeholderNames_of_settled {text : List Char} (h : Settled text) :
    placeholderNames text = [] := by
  rw [placeholderNames, pieces_of_settled h, List.filterMap_map]
  exact List.filterMap_eq_nil_iff.mpr fun c _ => rfl

-- A way to show the pieces of a path that keeps its characters, and has something for a placeholder
-- that neither makes nor continues one.
structure Settles (shown : Piece → List Char) : Prop where
  char : ∀ c, shown (.char c) = [c]
  colon : ∀ name, (∀ c ∈ name, continuesName c = true) → ':' ∉ shown (.placeholder name)
  start : ∀ name, nameFollows (shown (.placeholder name)) = false

theorem settles_templated : Settles Piece.templated where
  char _ := rfl
  colon := by
    intro name hall hm
    have hname : ':' ∈ name := by simpa [Piece.templated] using hm
    exact absurd (hall ':' hname) (by decide)
  start _ := rfl

theorem settles_erased : Settles Piece.erased where
  char _ := rfl
  colon _ _ := List.not_mem_nil
  start _ := rfl

-- Where a name ends, no other one begins without a colon.
theorem nameFollows_dropWhile (rest : List Char) :
    nameFollows (rest.dropWhile continuesName) = false := by
  cases hdrop : rest.dropWhile continuesName with
  | nil => rfl
  | cons c more =>
    have hstop := not_continuesName_of_head_dropWhile rest c (by rw [hdrop]; rfl)
    exact not_startsName_of_not_continuesName hstop

section Settles

variable {shown : Piece → List Char} (hs : Settles shown)

include hs

-- What comes first in the path comes first, or no name does. A placeholder that shows nothing is
-- followed by what could not continue its name.
theorem nameFollows_of_shown {path : List Char}
    (h : nameFollows ((pieces path).flatMap shown) = true) : nameFollows path = true := by
  induction path using pieces_induction with
  | nil =>
    rw [pieces_nil] at h
    cases h
  | placeholder rest hrest ih =>
    rw [pieces_placeholder hrest, List.flatMap_cons] at h
    have hstart := hs.start (rest.takeWhile continuesName)
    cases hshown : shown (.placeholder (rest.takeWhile continuesName)) with
    | nil =>
      rw [hshown, List.nil_append] at h
      exact absurd ((nameFollows_dropWhile rest).symm.trans (ih h)) (by decide)
    | cons first more =>
      rw [hshown] at h hstart
      exact absurd (h.symm.trans hstart) (by decide)
  | char c rest hc ih =>
    rw [pieces_char hc, List.flatMap_cons, hs.char] at h
    exact h

-- A path of which the placeholders are shown otherwise has none any more: those that were there are
-- gone, and no colon comes to stand before a name.
theorem settled_shown (path : List Char) : Settled ((pieces path).flatMap shown) := by
  induction path using pieces_induction with
  | nil =>
    rw [pieces_nil]
    exact .nil
  | placeholder rest hrest ih =>
    rw [pieces_placeholder hrest, List.flatMap_cons]
    exact settled_append (hs.colon _ fun c hc => List.mem_takeWhile_imp hc) ih
  | char c rest hc ih =>
    rw [pieces_char hc, List.flatMap_cons, hs.char, List.singleton_append, settled_cons_iff]
    exact ⟨fun hcolon => hc ⟨hcolon.1, nameFollows_of_shown hs hcolon.2⟩, ih⟩

end Settles

theorem settled_templatedChars (path : List Char) : Settled (templatedChars path) :=
  settled_shown settles_templated path

theorem settled_erasedChars (path : List Char) : Settled (erasedChars path) :=
  settled_shown settles_erased path

-- A text in which there is nothing left to cut off and nothing left to put between braces.
structure IsTemplate (text : String) : Prop where
  query : '?' ∉ text.toList
  fragment : '#' ∉ text.toList
  settled : Settled text.toList

theorem isTemplate_iff {text : String} :
    IsTemplate text ↔ (∀ c ∈ text.toList, endsPath c = false) ∧ Settled text.toList := by
  constructor
  · rintro ⟨hquery, hfragment, hsettled⟩
    refine ⟨fun c hc => Bool.eq_false_iff.mpr fun hends => ?_, hsettled⟩
    have hmark : c = '?' ∨ c = '#' := by simpa [endsPath] using hends
    rcases hmark with rfl | rfl
    · exact hquery hc
    · exact hfragment hc
  · rintro ⟨hends, hsettled⟩
    exact ⟨fun hm => absurd (hends _ hm) (by decide), fun hm => absurd (hends _ hm) (by decide),
      hsettled⟩

theorem isTemplate_templated (path : String) : IsTemplate (analyze path).templated := by
  rw [isTemplate_iff, analyze, String.toList_ofList]
  exact ⟨fun c hc => not_endsPath_of_mem_templatedChars hc, settled_templatedChars _⟩

-- Templates are the texts that an analysis leaves as they are and finds no placeholder in.
theorem analyze_eq_self_iff {text : String} : analyze text = ⟨text, []⟩ ↔ IsTemplate text := by
  constructor
  · intro h
    have htemplate := isTemplate_templated text
    rwa [h] at htemplate
  · intro h
    obtain ⟨hends, hsettled⟩ := isTemplate_iff.mp h
    rw [analyze, routeChars_eq_self hends, templatedChars_of_settled hsettled,
      placeholderNames_of_settled hsettled, String.ofList_toList, List.map_nil]

end ApiDescription.Path
