import ApiDescription.Definition.Basic
import ApiDescription.Proofs.Document.Isolation

namespace ApiDescription

variable {σ : Type}

namespace Conversion

-- The calls that say the same as a conversion, but for its tags.
def calls (c : Conversion) (endpoints : List (Endpoint σ)) : List (Call σ) :=
  c.servers.map Call.server ++
    match c.scheme with
    | some scheme => [.scheme "auth" scheme, .group ⟨endpoints, some { scheme := "auth" }⟩]
    | none => [.group ⟨endpoints, none⟩]

-- The definition that says the same as a conversion, but for its tags.
def definition (c : Conversion) (info : Option Info) (endpoints : List (Endpoint Schema)) :
    Definition where
  info
  servers := c.servers
  schemes :=
    match c.scheme with
    | some scheme => [("auth", scheme)]
    | none => []
  groups :=
    match c.scheme with
    | some _ => [⟨endpoints, some { scheme := "auth" }⟩]
    | none => [⟨endpoints, none⟩]

theorem filter_calls (c : Conversion) (endpoints : List (Endpoint σ)) :
    (c.calls endpoints).filter (fun call => call.tagging?.isNone) = c.calls endpoints := by
  cases h : c.scheme <;> simp [calls, h, Call.tagging?]

theorem tagging?_calls (c : Conversion) (endpoints : List (Endpoint σ)) :
    (c.calls endpoints).filterMap Call.tagging? = [] := by
  cases h : c.scheme <;> simp [calls, h, Call.tagging?, List.filterMap_cons]

theorem outline_eq_withTags (c : Conversion) (endpoints : List (Endpoint σ)) :
    c.outline endpoints =
      (Outline.ofCalls (c.info.getD .placeholder) (c.calls endpoints)).withTags
        (c.tags.getD Path.defaultTags) := by
  rw [Outline.ofCalls_eq]
  cases h : c.scheme <;>
    simp [outline, calls, h, Outline.withTags, Call.server?, Call.scheme?, Call.definition?,
      Call.security?, Call.group?, List.filterMap_cons, Function.comp_def, Entries.ofList_nil,
      Entries.ofList_singleton, soleScheme]

-- Any run makes the outline of a conversion if its tags are set last to those of the conversion,
-- and all its other calls are those of the conversion.
theorem outline_eq_ofCalls (c : Conversion) (endpoints : List (Endpoint σ))
    {run : List (Call σ)}
    (hcalls : run.filter (fun call => call.tagging?.isNone) = c.calls endpoints)
    (htags : (run.filterMap Call.tagging?).getLast? = c.tags) :
    c.outline endpoints = Outline.ofCalls (c.info.getD .placeholder) run := by
  have hsame : (c.calls endpoints).filter (fun call => call.tagging?.isNone) =
      run.filter fun call => call.tagging?.isNone := by
    rw [filter_calls, hcalls]
  rw [outline_eq_withTags, Outline.ofCalls_tags _ hsame, htags]

-- A definition makes the calls of the conversion, and in the same order.
theorem calls_definition (c : Conversion) (info : Option Info)
    (endpoints : List (Endpoint Schema)) :
    (c.definition info endpoints).calls = c.calls endpoints := by
  cases h : c.scheme <;> simp [definition, Definition.calls, calls, h]

end Conversion

variable [SchemaView σ]

-- A conversion, the calls that it stands for and the definition that it stands for come to the same
-- document, or fail for the same reason.
theorem front_ends_agree (c : Conversion) :
    (c.tags = none →
      (∀ endpoints : List (Endpoint σ),
        convert endpoints c = build (c.info.getD .placeholder) (c.calls endpoints)) ∧
      ∀ (endpoints : List (Endpoint Schema)) (info : Option Info),
        info.getD .placeholder = c.info.getD .placeholder →
        convert endpoints c = (c.definition info endpoints).document) ∧
    ∀ (tags : Path.Tagging) (endpoints : List (Endpoint σ)) (run : List (Call σ)),
      c.tags = some tags →
      run.filter (fun call => call.tagging?.isNone) = c.calls endpoints →
      (run.filterMap Call.tagging?).getLast? = some tags →
      convert endpoints c = build (c.info.getD .placeholder) run := by
  have hrun : ∀ {τ : Type} [SchemaView τ] (endpoints : List (Endpoint τ)) (run : List (Call τ)),
      run.filter (fun call => call.tagging?.isNone) = c.calls endpoints →
      (run.filterMap Call.tagging?).getLast? = c.tags →
      convert endpoints c = build (c.info.getD .placeholder) run := by
    intro τ _ endpoints run hcalls htags
    rw [convert, build, c.outline_eq_ofCalls endpoints hcalls htags]
  refine ⟨fun htags => ?_, fun tags endpoints run htags hcalls hlast => ?_⟩
  · have hbuild : ∀ {τ : Type} [SchemaView τ] (endpoints : List (Endpoint τ)),
        convert endpoints c = build (c.info.getD .placeholder) (c.calls endpoints) := by
      intro τ _ endpoints
      refine hrun endpoints _ (c.filter_calls endpoints) ?_
      rw [c.tagging?_calls, htags]
      rfl
    refine ⟨hbuild, fun endpoints info hinfo => ?_⟩
    rw [Definition.document, c.calls_definition, hbuild endpoints, ← hinfo]
    rfl
  · exact hrun endpoints run hcalls (hlast.trans htags.symm)

def authorizedUsers : Conversion where
  info := some usersInfo
  servers := [{ url := "/api" }, { url := "https://users.test" }]
  scheme := some { mechanism := .bearer }

def usersTags : Path.Tagging := fun _ => ["users"]

-- The last run sets other tags first. A conversion without metadata has a title and a version, but
-- blank metadata is not replaced.
theorem front_ends_agree_users :
    convert pagedUsers authorizedUsers = build usersInfo [
      .server { url := "/api" },
      .server { url := "https://users.test" },
      .scheme "auth" { mechanism := .bearer },
      .group ⟨pagedUsers, some { scheme := "auth" }⟩] ∧
    convert pagedUsers authorizedUsers = Definition.document {
      info := some usersInfo
      servers := [{ url := "/api" }, { url := "https://users.test" }]
      schemes := [("auth", { mechanism := .bearer })]
      groups := [⟨pagedUsers, some { scheme := "auth" }⟩] } ∧
    (∃ d events, convert pagedUsers authorizedUsers = .ok (d, events)) ∧
    convert pagedUsers { authorizedUsers with tags := some usersTags } = build usersInfo [
      .tags Path.defaultTags,
      .server { url := "/api" },
      .server { url := "https://users.test" },
      .tags usersTags,
      .scheme "auth" { mechanism := .bearer },
      .group ⟨pagedUsers, some { scheme := "auth" }⟩] ∧
    convert listedUsers {} = Definition.document { groups := [⟨listedUsers, none⟩] } ∧
    build { title := "", version := "" } [.group ⟨listedUsers, none⟩] = .error .blankTitle ∧
    convert listedUsers { info := some { title := "", version := "" } } =
      build { title := "", version := "" } [.group ⟨listedUsers, none⟩] := by
  have hauthorized := (front_ends_agree (σ := Schema) authorizedUsers).1 rfl
  have hvalid : (authorizedUsers.outline pagedUsers).Valid :=
    Conversion.valid_outline _ (by decide) (by decide)
  have htagged := (front_ends_agree (σ := Schema)
    { authorizedUsers with tags := some usersTags }).2 usersTags pagedUsers
  exact ⟨hauthorized.1 pagedUsers, hauthorized.2 pagedUsers (some usersInfo) rfl,
    ⟨_, _, Outline.assemble_of_valid hvalid⟩, htagged _ rfl rfl rfl,
    ((front_ends_agree (σ := Schema) {}).1 rfl).2 listedUsers none rfl, rfl,
    ((front_ends_agree { info := some { title := "", version := "" } }).1 rfl).1 listedUsers⟩

end ApiDescription
