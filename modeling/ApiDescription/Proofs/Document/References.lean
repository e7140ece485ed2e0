import ApiDescription.Definition.Basic
import ApiDescription.Proofs.Document.Embedded
import ApiDescription.Proofs.Document.Isolation

namespace ApiDescription

namespace Json

-- The security arrays of a document: its own and those of its operations.
def securityArrays (document : Json) : List Json :=
  document.under "security" ++ (document.under "paths").flatMap fun paths =>
    paths.members.flatMap fun item => item.members.flatMap fun operation =>
      operation.under "security"

-- What a document says of the security scheme of a name.
def schemeNamed (document : Json) (name : String) : Option Json := do
  let components ← document.get? "components"
  let schemes ← components.get? "securitySchemes"
  schemes.get? name

-- Each security array refers to one scheme, and the document shows that scheme as it was registered
-- last under its name.
def Resolves (registered : List (String × SecurityScheme)) (document : Json) : Prop :=
  ∀ array ∈ document.securityArrays, ∃ name grants scheme,
    array = .array [.object [(name, grants)]] ∧
    Entries.get? registered.reverse name = some scheme ∧
    document.schemeNamed name = some scheme.toJson

end Json

variable {σ : Type} [SchemaView σ]

namespace Outline

theorem schemeNamed_render {o : Outline σ} {name : String} {scheme : SecurityScheme}
    (h : o.schemes.get? name = some scheme) : o.render.schemeNamed name = some scheme.toJson := by
  have hne : o.schemes ≠ [] := by
    intro hnil
    rw [hnil] at h
    cases h
  obtain ⟨value, hvalue⟩ := Option.ne_none_iff_exists'.mp fun hnone =>
    hne (o.components_eq_none_iff.mp hnone).1
  obtain ⟨components, rfl, -, hschemes, -⟩ := components_eq_some hvalue
  rw [if_neg hne] at hschemes
  rw [Json.schemeNamed, get?_components_render, hvalue]
  simp [hschemes, Entries.get?_mapValues, h]

-- Every security array renders one of the requirements of the outline.
theorem securityArrays_render (o : Outline σ) :
    ∀ array ∈ o.render.securityArrays, ∃ r ∈ o.requirements, array = r.toJson := by
  intro array hm
  rcases List.mem_append.mp hm with hm | hm
  · rw [Json.under, get?_security_render, Option.mem_toList] at hm
    obtain ⟨r, hr, rfl⟩ := Option.map_eq_some_iff.mp hm
    exact ⟨r, List.mem_append_right _ (Option.mem_toList.mpr hr), rfl⟩
  · rw [Json.under_of_get? (get?_paths_render o), List.flatMap_singleton] at hm
    obtain ⟨item, hi, hm⟩ := List.mem_flatMap.mp hm
    obtain ⟨entry, he, rfl⟩ := List.mem_map.mp hi
    obtain ⟨path, _, rfl⟩ := List.mem_map.mp he
    obtain ⟨operation, ho, hm⟩ := List.mem_flatMap.mp hm
    obtain ⟨published, hp, rfl⟩ := List.mem_map.mp ho
    obtain ⟨p, hplaced, hp⟩ := mem_publishedItem hp
    rw [hp, Json.under, get?_security_operation, Option.mem_toList] at hm
    obtain ⟨r, hr, rfl⟩ := Option.map_eq_some_iff.mp hm
    refine ⟨r, ?_, rfl⟩
    obtain ⟨g, hg, hm⟩ := List.mem_flatMap.mp hplaced
    obtain ⟨e, _, rfl⟩ := List.mem_map.mp hm
    exact List.mem_append_left _ (List.mem_filterMap.mpr ⟨g, hg, hr⟩)

-- What an outline refers to is there under the name by which it refers to it.
theorem resolves_render {o : Outline σ} (h : o.Valid) {registered : List (String × SecurityScheme)}
    (hschemes : o.schemes = Entries.ofList registered) : o.render.Resolves registered := by
  intro array hm
  obtain ⟨r, hr, rfl⟩ := o.securityArrays_render array hm
  have hkey := (Entries.contains_iff ..).mpr (h.schemes r hr)
  obtain ⟨scheme, hscheme⟩ := Option.isSome_iff_exists.mp hkey
  refine ⟨r.scheme, Json.strings r.grants, scheme, rfl, ?_, schemeNamed_render hscheme⟩
  rw [← Entries.get?_ofList, ← hschemes, hscheme]

end Outline

-- In every document, whatever it was made from, the security arrays refer to schemes that the
-- document shows.
theorem references_resolve :
    (∀ (info : Info) (calls : List (Call σ)) (d : Document) (events : List Event),
      build info calls = .ok (d, events) → d.value.Resolves (calls.filterMap Call.scheme?)) ∧
    (∀ (endpoints : List (Endpoint σ)) (c : Conversion) (d : Document) (events : List Event),
      convert endpoints c = .ok (d, events) →
      d.value.Resolves (c.scheme.map fun scheme => (soleScheme, scheme)).toList) ∧
    ∀ (definition : Definition) (d : Document) (events : List Event),
      definition.document = .ok (d, events) → d.value.Resolves definition.schemes := by
  have hbuild : ∀ {τ : Type} [SchemaView τ] (info : Info) (calls : List (Call τ)) (d : Document)
      (events : List Event), build info calls = .ok (d, events) →
      d.value.Resolves (calls.filterMap Call.scheme?) := by
    intro τ _ info calls d events h
    obtain ⟨hv, rfl, _⟩ := (Outline.assemble_eq_ok_iff ..).mp h
    exact Outline.resolves_render hv (by rw [Outline.ofCalls_eq])
  refine ⟨hbuild, ?_, ?_⟩
  · intro endpoints c d events h
    obtain ⟨hv, rfl, _⟩ := (Outline.assemble_eq_ok_iff ..).mp h
    refine Outline.resolves_render hv ?_
    cases hc : c.scheme <;> simp [Conversion.outline, hc] <;> rfl
  · intro definition d events h
    have hschemes : definition.calls.filterMap Call.scheme? = definition.schemes := by
      simp [Definition.calls, Call.scheme?, Function.comp_def]
    rw [← hschemes]
    exact hbuild _ _ d events h

-- A scheme without a name to speak of, and another one under its name after it is referred to.
def replacedSchemeCalls : List (Call Schema) := [
  .scheme "" { mechanism := .bearer },
  .group ⟨pagedUsers, some { scheme := "", grants := ["read"] }⟩,
  .security { scheme := "" },
  .scheme "" { mechanism := .basic }]

def usersDefinition : Definition where
  info := some usersInfo
  schemes := [("auth", { mechanism := .bearer })]
  groups := [⟨pagedUsers, some usersReader⟩]

theorem references_resolve_users :
    (∃ d events, build usersInfo replacedSchemeCalls = .ok (d, events) ∧
      d.value.securityArrays = [
        .array [.object [("", .array [])]], .array [.object [("", .array [.string "read"])]]] ∧
      d.value.Resolves (replacedSchemeCalls.filterMap Call.scheme?)) ∧
    (∃ d events, convert pagedUsers { scheme := some { mechanism := .basic } } = .ok (d, events) ∧
      d.value.securityArrays = [.array [.object [("auth", .array [])]]] ∧
      d.value.Resolves [("auth", { mechanism := .basic })]) ∧
    ∃ d events, usersDefinition.document = .ok (d, events) ∧
      d.value.securityArrays = [.array [.object [("auth", .array [.string "read"])]]] ∧
      d.value.Resolves usersDefinition.schemes := by
  have hbuild : build usersInfo replacedSchemeCalls = .ok _ :=
    Outline.assemble_of_valid ((Outline.fault?_eq_none_iff _).mp (by decide))
  have hconvert : convert pagedUsers { scheme := some { mechanism := .basic } } = .ok _ :=
    Outline.assemble_of_valid ((Outline.fault?_eq_none_iff _).mp (by decide +kernel))
  have hvalid : (Outline.ofCalls usersInfo usersDefinition.calls).Valid :=
    (Outline.fault?_eq_none_iff _).mp (by decide)
  have hdefinition : usersDefinition.document = .ok _ := Outline.assemble_of_valid hvalid
  refine ⟨⟨_, _, hbuild, ?_, references_resolve.1 _ _ _ _ hbuild⟩,
    ⟨_, _, hconvert, ?_, references_resolve.2.1 _ _ _ _ hconvert⟩,
    ⟨_, _, hdefinition, ?_, (references_resolve (σ := Schema)).2.2 _ _ _ hdefinition⟩⟩
  · with_unfolding_all rfl
  · with_unfolding_all rfl
  · with_unfolding_all rfl

end ApiDescription
