import ApiDescription.Path.Tags
import ApiDescription.Proofs.Entries
import ApiDescription.Proofs.Path.Settled
import ApiDescription.Proofs.Text.Split

namespace ApiDescription

namespace Path

-- A placeholder does not reach over a slash.
theorem erasedChars_append_slash (before rest : List Char) :
    erasedChars (before ++ '/' :: rest) = erasedChars before ++ '/' :: erasedChars rest := by
  rw [erasedChars, pieces_append (by decide), pieces_char_of_ne (by decide), List.flatMap_append,
    List.flatMap_cons]
  rfl

-- The segments of a path may lose their placeholders before or after they are split.
theorem splitOn_erasedChars (path : List Char) :
    (erasedChars path).splitOn '/' = (path.splitOn '/').map erasedChars := by
  have herased : ∀ {text : List Char}, '/' ∉ text → '/' ∉ erasedChars text :=
    fun h hm => h (mem_of_mem_erasedChars hm)
  induction path using Text.splitOn_induction '/' with
  | whole text hslash =>
    rw [List.splitOn_eq_singleton (herased hslash), List.splitOn_eq_singleton hslash,
      List.map_singleton]
  | cut part rest hslash ih =>
    rw [erasedChars_append_slash, List.splitOn_append_cons_self_of_not_mem (herased hslash),
      List.splitOn_append_cons_self_of_not_mem hslash, ih, List.map_cons]

-- The last of some texts that is not empty, as the only one of a list; or none.
def lastFilled (texts : List (List Char)) : List String :=
  ((texts.findRev? fun text => text ≠ []).map String.ofList).toList

-- The segments of a path, each without its placeholders.
def staticSegments (path : String) : List (List Char) :=
  ((route path).toList.splitOn '/').map erasedChars

theorem mem_lastFilled {texts : List (List Char)} {tag : String} (h : tag ∈ lastFilled texts) :
    tag.toList ∈ texts ∧ tag.toList ≠ [] := by
  obtain ⟨text, hfound, rfl⟩ := Option.map_eq_some_iff.mp (Option.mem_toList.mp h)
  obtain ⟨hm, hne⟩ := of_findRev?_eq_some hfound
  rw [String.toList_ofList]
  exact ⟨hm, of_decide_eq_true hne⟩

theorem length_lastFilled_le (texts : List (List Char)) : (lastFilled texts).length ≤ 1 :=
  Option.length_toList_le

theorem defaultTags_eq (path : String) :
    defaultTags path = lastFilled ((erasedChars (route path).toList).splitOn '/') := by
  rw [defaultTags, lastFilled, Text.split_eq_splitOn, List.getLast?_filter,
    List.findRev?_eq_find?_reverse, route, String.toList_ofList]

-- A template without the names between braces, and without the braces.
def untokened (template : String) : List Char :=
  (templatePieces template.toList).flatMap Piece.erased

theorem isTemplate_of_mem_defaultTags {path tag : String} (h : tag ∈ defaultTags path) :
    IsTemplate tag := by
  rw [defaultTags_eq, splitOn_erasedChars] at h
  obtain ⟨segment, hsegment, htag⟩ := List.mem_map.mp (mem_lastFilled h).1
  rw [isTemplate_iff, ← htag]
  refine ⟨fun c hc => ?_, settled_erasedChars segment⟩
  have hroute := (Text.of_mem_splitOn hsegment).2 c (mem_of_mem_erasedChars hc)
  rw [route, String.toList_ofList] at hroute
  exact not_endsPath_of_mem_routeChars hroute

def membersPath : String := "/orgs/:org/members::of-:which/:id:key?in=/:place"

end Path

end ApiDescription
