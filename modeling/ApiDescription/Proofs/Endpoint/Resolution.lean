import ApiDescription.Document.Operation
import Mathlib.Data.List.Forall2

namespace ApiDescription

namespace Json

-- A text under the name of a description, or nothing.
def described (text : Option String) : Entries Json :=
  (text.map fun text => ("description", .string text)).toList

-- A parameter as a document shows it.
def parameter (name location : String) (text : Option String) (required : Bool) (schema : Json) :
    Json :=
  .object ([("name", .string name), ("in", .string location)] ++ described text ++
    [("required", .bool required), ("schema", schema)])

-- A body as a document shows it.
def body (text : Option String) (schema : Json) : Json :=
  .object (described text ++ [("content", .object [("application/json",
    .object [("schema", schema)])])])

end Json

theorem parameterEntry_eq (name location : String) (text : Option String) (required : Bool)
    (schema : Json) :
    parameterEntry name location text required schema =
      Json.parameter name location text required schema := by
  cases text <;> rfl

-- What carries a parameter is named in lower case where a document says it.
theorem Carrier.toLower_text {carrier : Carrier} {location : String}
    (h : carrier.location = some location) : carrier.text.toLower = location := by
  cases carrier <;> cases h <;> decide +kernel

namespace Endpoint

variable {σ : Type}

-- The declaration of a name: the first path parameter that has it.
structure Declares (e : Endpoint σ) (before : List (Parameter σ)) (p : Parameter σ)
    (after : List (Parameter σ)) (name : String) : Prop where
  parameters : e.parameters = before ++ p :: after
  carrier : p.carrier = .path
  named : p.name = name
  first : ∀ q ∈ before, q.carrier = .path → q.name ≠ name

def LacksDeclaration (e : Endpoint σ) (name : String) : Prop :=
  ∀ p ∈ e.parameters, p.carrier = .path → p.name ≠ name

instance (e : Endpoint σ) : DecidablePred e.LacksDeclaration :=
  fun _ => inferInstanceAs (Decidable (∀ p ∈ e.parameters, _))

theorem declarationOf_eq_find? (e : Endpoint σ) (name : String) :
    e.declarationOf name =
      e.parameters.find? fun p => p.carrier = .path ∧ p.name = name := by
  rw [declarationOf, parametersIn, List.find?_filter]
  simp only [decide_eq_true_eq]

theorem declarationOf_eq_none_iff (e : Endpoint σ) (name : String) :
    e.declarationOf name = none ↔ e.LacksDeclaration name := by
  rw [declarationOf_eq_find?, List.find?_eq_none]
  simp only [decide_eq_true_eq, not_and]
  rfl

theorem declarationOf_eq_some_iff (e : Endpoint σ) (name : String) (p : Parameter σ) :
    e.declarationOf name = some p ↔ ∃ before after, e.Declares before p after name := by
  have hother : ∀ q : Parameter σ, (!decide (q.carrier = .path ∧ q.name = name)) = true ↔
      (q.carrier = .path → q.name ≠ name) := by
    intro q
    rw [Bool.not_eq_true', decide_eq_false_iff_not, not_and]
  rw [declarationOf_eq_find?, List.find?_eq_some_iff_append]
  constructor
  · rintro ⟨hp, before, after, hparameters, hbefore⟩
    obtain ⟨hcarrier, hname⟩ := of_decide_eq_true hp
    exact ⟨before, after, hparameters, hcarrier, hname, fun q hq => (hother q).mp (hbefore q hq)⟩
  · rintro ⟨before, after, hparameters, hcarrier, hname, hfirst⟩
    exact ⟨decide_eq_true ⟨hcarrier, hname⟩, before, after, hparameters,
      fun q hq => (hother q).mpr (hfirst q hq)⟩

-- The placeholders that no path parameter declares, as often as they come.
def undeclared (e : Endpoint σ) (t : Path.Template) : List String :=
  t.placeholders.filter fun name => e.LacksDeclaration name

-- The path parameters that declare no placeholder.
def unmatched (e : Endpoint σ) (t : Path.Template) : List (Parameter σ) :=
  e.parameters.filter fun p => p.carrier = .path ∧ p.name ∉ t.placeholders

theorem parameterEvents_eq (e : Endpoint σ) (t : Path.Template) :
    e.parameterEvents t =
      (e.undeclared t).map (fun name => .undeclaredParameter e.operationId name) ++
        (e.unmatched t).map fun p => .unmatchedParameter e.operationId p.name e.path := by
  have hundeclared : (t.placeholders.filter fun name => (e.declarationOf name).isNone) =
      e.undeclared t := by
    apply List.filter_congr
    intro name _
    rw [Bool.eq_iff_iff, Option.isNone_iff_eq_none, declarationOf_eq_none_iff, decide_eq_true_eq]
  have hunmatched : ((e.parametersIn .path).filter fun p => !t.placeholders.contains p.name) =
      e.unmatched t := by
    rw [parametersIn, List.filter_filter]
    apply List.filter_congr
    intro p _
    simp [Bool.and_comm]
  rw [parameterEvents, hundeclared, hunmatched]

theorem levels_parameterEvents (e : Endpoint σ) (t : Path.Template) :
    (e.parameterEvents t).map Event.level =
      List.replicate (e.undeclared t).length .debug ++
        List.replicate (e.unmatched t).length .warning := by
  rw [parameterEvents_eq, List.map_append, List.map_map, List.map_map, ← List.map_const',
    ← List.map_const']
  rfl

def bodyCount (e : Endpoint σ) : Nat := e.parameters.countP fun p => p.carrier = .body

theorem body_eq_find? (e : Endpoint σ) :
    e.body = e.parameters.find? fun p => p.carrier = .body := by
  rw [body, parametersIn, List.head?_filter]

theorem body_eq_none_iff (e : Endpoint σ) : e.body = none ↔ e.bodyCount = 0 := by
  rw [body_eq_find?, List.find?_eq_none, bodyCount, List.countP_eq_zero]

theorem body_eq_some_iff (e : Endpoint σ) (p : Parameter σ) :
    e.body = some p ↔ ∃ before after, e.parameters = before ++ p :: after ∧ p.carrier = .body ∧
      ∀ q ∈ before, q.carrier ≠ .body := by
  have hother : ∀ q : Parameter σ, (!decide (q.carrier = .body)) = true ↔ q.carrier ≠ .body := by
    intro q
    rw [Bool.not_eq_true', decide_eq_false_iff_not]
  rw [body_eq_find?, List.find?_eq_some_iff_append]
  simp only [decide_eq_true_eq, hother]
  constructor
  · rintro ⟨hp, before, after, hparameters, hbefore⟩
    exact ⟨before, after, hparameters, hp, hbefore⟩
  · rintro ⟨before, after, hparameters, hp, hbefore⟩
    exact ⟨hp, before, after, hparameters, hbefore⟩

theorem bodyEvents_eq (e : Endpoint σ) :
    e.bodyEvents =
      if 2 ≤ e.bodyCount then [.surplusBodies e.operationId (e.bodyCount - 1)] else [] := by
  have hcount : (e.parametersIn .body).length = e.bodyCount := by
    rw [bodyCount, List.countP_eq_length_filter, parametersIn]
  rw [bodyEvents, hcount]
  by_cases h : 2 ≤ e.bodyCount
  · rw [if_pos h, if_neg (by omega)]
  · rw [if_neg h, if_pos (by omega)]

variable [SchemaView σ]

-- What stands for a placeholder: its declaration, with the text of its schema if it has none of its
-- own, or a string that nothing is said of.
inductive ShowsPlaceholder (e : Endpoint σ) (name : String) : Json → Prop where
  | declared {before after : List (Parameter σ)} {p : Parameter σ}
    (h : e.Declares before p after name) : ShowsPlaceholder e name
      (.parameter name "path" (p.description.or (SchemaView.description p.schema)) true
        (SchemaView.toJsonSchema .openApi3 p.schema))
  | undeclared (h : e.LacksDeclaration name) : ShowsPlaceholder e name
      (.parameter name "path" none true (.object [("type", .string "string")]))

-- What stands for a query or header parameter. If it may be absent, its schema is the one of the
-- values it has if given.
def shownParameter (p : Parameter σ) : Json :=
  .parameter (if p.carrier = .query && SchemaView.isArray p.schema then p.name ++ "[]" else p.name)
    p.carrier.text.toLower (p.description.or (SchemaView.description p.schema))
    (!SchemaView.isOptional p.schema)
    (SchemaView.toJsonSchema .openApi3
      (if SchemaView.isOptional p.schema then (SchemaView.stripOptional p.schema).getD p.schema
        else p.schema))

structure ResolvesParameters (e : Endpoint σ) (t : Path.Template) (entries : List Json)
    (events : List Event) : Prop where
  entries : ∃ placeholders, List.Forall₂ e.ShowsPlaceholder t.placeholders placeholders ∧
    entries = placeholders ++
      (e.parameters.filter fun p => p.carrier = .query ∨ p.carrier = .header).map shownParameter
  events : events =
    (e.undeclared t).map (fun name => .undeclaredParameter e.operationId name) ++
      (e.unmatched t).map fun p => .unmatchedParameter e.operationId p.name e.path

structure ResolvesBody (e : Endpoint σ) (body : Option Json) (events : List Event) : Prop where
  none_iff : body = none ↔ e.bodyCount = 0
  first : ∀ before p after, e.parameters = before ++ p :: after → p.carrier = .body →
    (∀ q ∈ before, q.carrier ≠ .body) →
    body = some (.body (p.description.or (SchemaView.description p.schema))
      (SchemaView.toJsonSchema .openApi3 p.schema))
  events : events =
    if 2 ≤ e.bodyCount then [.surplusBodies e.operationId (e.bodyCount - 1)] else []

theorem showsPlaceholder_iff (e : Endpoint σ) (name : String) (entry : Json) :
    e.ShowsPlaceholder name entry ↔ e.placeholderEntry name = entry := by
  rw [placeholderEntry]
  cases hdeclaration : e.declarationOf name with
  | none =>
    have hlacks := (declarationOf_eq_none_iff e name).mp hdeclaration
    simp only [parameterEntry_eq]
    constructor
    · rintro (hdeclares | _)
      · have hfound := (declarationOf_eq_some_iff e name _).mpr ⟨_, _, hdeclares⟩
        rw [hdeclaration] at hfound
        cases hfound
      · rfl
    · rintro rfl
      exact .undeclared hlacks
  | some p =>
    obtain ⟨before, after, hp⟩ := (declarationOf_eq_some_iff e name p).mp hdeclaration
    simp only [parameterEntry_eq]
    constructor
    · rintro (hdeclares | hlacks)
      · have hfound := (declarationOf_eq_some_iff e name _).mpr ⟨_, _, hdeclares⟩
        obtain rfl := Option.some.inj (hdeclaration.symm.trans hfound)
        rfl
      · rw [(declarationOf_eq_none_iff e name).mpr hlacks] at hdeclaration
        cases hdeclaration
    · rintro rfl
      exact .declared hp

theorem forall₂_showsPlaceholder_iff (e : Endpoint σ) (names : List String)
    (entries : List Json) :
    List.Forall₂ e.ShowsPlaceholder names entries ↔ names.map e.placeholderEntry = entries := by
  have hshows : e.ShowsPlaceholder = fun name entry => e.placeholderEntry name = entry :=
    funext₂ fun name entry => propext (showsPlaceholder_iff e name entry)
  rw [hshows, ← List.forall₂_map_left_iff, List.forall₂_eq_eq_eq]

theorem shownParameter_eq (p : Parameter σ) :
    shownParameter p =
      .parameter (shownName p) p.carrier.text.toLower p.text (!SchemaView.isOptional p.schema)
        (SchemaView.toJsonSchema .openApi3
          (if SchemaView.isOptional p.schema then shownSchema p.schema else p.schema)) :=
  rfl

theorem declaredEntry_eq (p : Parameter σ) :
    declaredEntry p =
      if p.carrier = .query ∨ p.carrier = .header then some (shownParameter p) else none := by
  cases hcarrier : p.carrier with
  | path | body => simp [declaredEntry, hcarrier]
  | query | header =>
    rw [if_pos (by decide), shownParameter_eq, ← parameterEntry_eq, declaredEntry, hcarrier,
      Carrier.toLower_text rfl]
    cases SchemaView.isOptional p.schema <;> rfl

theorem filterMap_declaredEntry (ps : List (Parameter σ)) :
    ps.filterMap declaredEntry =
      (ps.filter fun p => p.carrier = .query ∨ p.carrier = .header).map shownParameter := by
  rw [← List.filterMap_eq_map, List.filterMap_filter]
  apply List.filterMap_congr
  intro p _
  rw [declaredEntry_eq]
  simp only [decide_eq_true_eq, Function.comp_apply]

theorem resolvesParameters_iff (e : Endpoint σ) (t : Path.Template) (entries : List Json)
    (events : List Event) :
    e.ResolvesParameters t entries events ↔
      e.parameterEntries t = entries ∧ e.parameterEvents t = events := by
  rw [parameterEntries, filterMap_declaredEntry, parameterEvents_eq]
  constructor
  · rintro ⟨⟨placeholders, hplaceholders, rfl⟩, rfl⟩
    rw [(forall₂_showsPlaceholder_iff ..).mp hplaceholders]
    exact ⟨rfl, rfl⟩
  · rintro ⟨rfl, rfl⟩
    exact ⟨⟨_, (forall₂_showsPlaceholder_iff ..).mpr rfl, rfl⟩, rfl⟩

theorem requestBody_eq (e : Endpoint σ) :
    e.requestBody = e.body.map fun p =>
      .body (p.description.or (SchemaView.description p.schema))
        (SchemaView.toJsonSchema .openApi3 p.schema) := by
  have hbody : ∀ (text : Option String) (schema : σ),
      Json.present [Json.field? "description" text .string,
        Json.field "content" (jsonContent schema)] =
      .body text (SchemaView.toJsonSchema .openApi3 schema) := by
    intro text schema
    cases text <;> rfl
  simp only [requestBody, hbody, Parameter.text]

theorem resolvesBody_iff (e : Endpoint σ) (body : Option Json) (events : List Event) :
    e.ResolvesBody body events ↔ e.requestBody = body ∧ e.bodyEvents = events := by
  rw [requestBody_eq, bodyEvents_eq]
  constructor
  · rintro ⟨hnone, hfirst, rfl⟩
    refine ⟨?_, rfl⟩
    cases hbody : e.body with
    | none => exact (hnone.mpr ((body_eq_none_iff e).mp hbody)).symm
    | some p =>
      obtain ⟨before, after, hparameters, hp, hbefore⟩ := (body_eq_some_iff e p).mp hbody
      exact (hfirst before p after hparameters hp hbefore).symm
  · rintro ⟨rfl, rfl⟩
    refine ⟨?_, ?_, rfl⟩
    · rw [Option.map_eq_none_iff, body_eq_none_iff]
    · intro before p after hparameters hp hbefore
      rw [(body_eq_some_iff e p).mpr ⟨before, after, hparameters, hp, hbefore⟩]
      rfl

-- A body, and a path parameter that is not in the path, may as well not be there.
theorem parameterEntries_remove (e : Endpoint σ) (t : Path.Template)
    {before after : List (Parameter σ)} {p : Parameter σ}
    (hparameters : e.parameters = before ++ p :: after)
    (hp : p.carrier = .body ∨ p.carrier = .path ∧ p.name ∉ t.placeholders) :
    parameterEntries { e with parameters := before ++ after } t = e.parameterEntries t := by
  -- Only the declarations of placeholders are looked for, and the parameter is none of these.
  have hdeclaration : ∀ name ∈ t.placeholders,
      declarationOf { e with parameters := before ++ after } name = e.declarationOf name := by
    intro name hname
    have hother : ¬(p.carrier = .path ∧ p.name = name) := by
      rintro ⟨hcarrier, rfl⟩
      rcases hp with hbody | ⟨_, hn⟩
      · rw [hcarrier] at hbody
        cases hbody
      · exact hn hname
    rw [declarationOf_eq_find?, declarationOf_eq_find?, hparameters, List.find?_append,
      List.find?_append, List.find?_cons_of_neg (by simpa using hother)]
  have hdeclared : declaredEntry p = none := by
    rw [declaredEntry_eq, if_neg]
    rcases hp with h | ⟨h, _⟩ <;> simp [h]
  rw [parameterEntries, parameterEntries, hparameters, List.filterMap_append,
    List.filterMap_append, List.filterMap_cons_none hdeclared]
  congr 1
  apply List.map_congr_left
  intro name hname
  rw [placeholderEntry, placeholderEntry, hdeclaration name hname]

-- The parameters of an operation and its body are those that the declarations resolve to, and what
-- is told is what had to be made up or was left out.
theorem parameters_resolved (e : Endpoint σ) (t : Path.Template) :
    (∀ entries events, e.ResolvesParameters t entries events ↔
      e.parameterEntries t = entries ∧ e.parameterEvents t = events) ∧
    (∀ body events, e.ResolvesBody body events ↔
      e.requestBody = body ∧ e.bodyEvents = events) ∧
    (∀ before p after, e.parameters = before ++ p :: after →
      p.carrier = .body ∨ p.carrier = .path ∧ p.name ∉ t.placeholders →
      parameterEntries { e with parameters := before ++ after } t = e.parameterEntries t) ∧
    (e.parameterEvents t).map Event.level =
      List.replicate (e.undeclared t).length .debug ++
        List.replicate (e.unmatched t).length .warning ∧
    e.bodyEvents.map Event.level = if 2 ≤ e.bodyCount then [.warning] else [] := by
  refine ⟨resolvesParameters_iff e t, resolvesBody_iff e,
    fun before p after hparameters hp => parameterEntries_remove e t hparameters hp,
    levels_parameterEvents e t, ?_⟩
  rw [bodyEvents_eq]
  split <;> rfl

-- A name that comes twice, one that only the query has, and one under which other parameters are
-- declared as well; a declaration for nothing; and more bodies than one. There are texts of their
-- own among them, one that a schema has, and one before another that its schema has.
def movedMember : Endpoint Schema where
  method := .put
  path := "/orgs/:org/members/:id/to/:org?by=:user"
  operationId := "moveMember"
  parameters := [
    ⟨"id", .query, none, (Schema.arrayOf .integer).optional.describe "Earlier numbers"⟩,
    ⟨"reason", .body, some "Why", .string⟩, ⟨"team", .path, none, .string⟩,
    ⟨"id", .path, some "Member", Schema.string.describe "Number"⟩, ⟨"id", .path, none, .boolean⟩,
    ⟨"note", .body, none, .any⟩, ⟨"trace", .header, none, .string⟩, ⟨"org", .body, none, .string⟩]
  response := .void

def movedMemberTemplate : Path.Template := Path.analyze movedMember.path

theorem parameters_resolved_movedMember :
    movedMember.parameterEntries movedMemberTemplate = [
      .parameter "org" "path" none true (.object [("type", .string "string")]),
      .parameter "id" "path" (some "Member") true
        (.object [("type", .string "string"), ("description", .string "Number")]),
      .parameter "org" "path" none true (.object [("type", .string "string")]),
      .parameter "user" "path" none true (.object [("type", .string "string")]),
      .parameter "id[]" "query" (some "Earlier numbers") false
        (.object [("type", .string "array"), ("items", .object [("type", .string "integer")])]),
      .parameter "trace" "header" none true (.object [("type", .string "string")])] ∧
    movedMember.parameterEvents movedMemberTemplate =
      [.undeclaredParameter "moveMember" "org", .undeclaredParameter "moveMember" "org",
        .undeclaredParameter "moveMember" "user",
        .unmatchedParameter "moveMember" "team" movedMember.path] ∧
    parameterEntries { movedMember with parameters := movedMember.parameters.eraseIdx 2 }
        movedMemberTemplate =
      movedMember.parameterEntries movedMemberTemplate ∧
    movedMember.requestBody = some (.body (some "Why") (.object [("type", .string "string")])) ∧
    movedMember.bodyEvents = [.surplusBodies "moveMember" 2] := by
  obtain ⟨hparameters, hbody, hremove, -, -⟩ := parameters_resolved movedMember movedMemberTemplate
  have hplaceholders : movedMemberTemplate.placeholders = ["org", "id", "org", "user"] := by
    decide +kernel
  have hid : movedMember.Declares (movedMember.parameters.take 3) _
      (movedMember.parameters.drop 4) "id" := ⟨rfl, rfl, rfl, by decide +kernel⟩
  have horg : movedMember.LacksDeclaration "org" := by decide +kernel
  have huser : movedMember.LacksDeclaration "user" := by decide +kernel
  have hshown : List.Forall₂ movedMember.ShowsPlaceholder ["org", "id", "org", "user"] _ :=
    .cons (.undeclared horg) <| .cons (.declared hid) <| .cons (.undeclared horg) <|
      .cons (.undeclared huser) .nil
  rw [← hplaceholders] at hshown
  obtain ⟨hentries, hevents⟩ := (hparameters _ _).mp ⟨⟨_, hshown, rfl⟩, rfl⟩
  obtain ⟨-, hfirst, hsurplus⟩ := (hbody _ _).mpr ⟨rfl, rfl⟩
  refine ⟨?_, ?_, ?_, ?_, ?_⟩
  · have hquery : Carrier.query.text.toLower = "query" := Carrier.toLower_text rfl
    have hheader : Carrier.header.text.toLower = "header" := Carrier.toLower_text rfl
    rw [hentries]
    show _ ++ [Json.parameter _ Carrier.query.text.toLower _ _ _,
      Json.parameter _ Carrier.header.text.toLower _ _ _] = _
    rw [hquery, hheader]
    rfl
  · rw [hevents]
    decide +kernel
  · exact hremove (movedMember.parameters.take 2) _ (movedMember.parameters.drop 3) rfl
      (.inr ⟨rfl, by decide +kernel⟩)
  · exact hfirst (movedMember.parameters.take 1) _ (movedMember.parameters.drop 2) rfl rfl
      (by simp [movedMember])
  · rw [hsurplus]
    decide

end Endpoint

end ApiDescription
