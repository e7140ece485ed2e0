import ApiDescription.Proofs.Document.Isolation

namespace ApiDescription

variable {σ : Type}

-- What tells of events while it goes on and may fail. What was told before a failure stays told.
abbrev Telling := ExceptT OutlineError (StateM (List Event))

namespace Telling

variable {α β : Type}

def tell (event : Event) : Telling Unit := modify (· ++ [event])

def tellIf (said : Bool) (event : Event) : Telling Unit :=
  if said then tell event else pure ()

def refuseIf (wrong : Bool) (error : OutlineError) : Telling Unit :=
  if wrong then throw error else pure ()

-- Whether it comes to a value and tells of just these events, whatever was told before.
def Tells (action : Telling α) (value : α) (events : List Event) : Prop :=
  ∀ told, action.run.run told = (.ok value, told ++ events)

-- Whether it fails and tells of nothing.
def Fails (action : Telling α) (error : OutlineError) : Prop :=
  ∀ told, action.run.run told = (.error error, told)

theorem tells_pure (value : α) : Tells (pure value) value [] := by
  intro told
  rw [List.append_nil]
  rfl

theorem tells_tell (event : Event) : Tells (tell event) () [event] := fun _ => rfl

theorem fails_throw (error : OutlineError) : Fails (throw error : Telling α) error := fun _ => rfl

theorem Tells.bind {action : Telling α} {next : α → Telling β} {value : α} {result : β}
    {events more : List Event} (h : action.Tells value events)
    (hnext : (next value).Tells result more) :
    (action >>= next).Tells result (events ++ more) := by
  intro told
  rw [ExceptT.run_bind, StateT.run_bind, h told, ← List.append_assoc]
  exact hnext (told ++ events)

theorem Fails.bind {action : Telling α} {error : OutlineError} (h : action.Fails error)
    (next : α → Telling β) : (action >>= next).Fails error := by
  intro told
  rw [ExceptT.run_bind, StateT.run_bind, h told]
  rfl

theorem Tells.bind_fails {action : Telling α} {next : α → Telling β} {value : α}
    {error : OutlineError} (h : action.Tells value []) (hnext : (next value).Fails error) :
    (action >>= next).Fails error := by
  intro told
  rw [ExceptT.run_bind, StateT.run_bind, h told, List.append_nil]
  exact hnext told

theorem tells_forM_tell (events : List Event) : (events.forM tell).Tells () events := by
  induction events with
  | nil => exact tells_pure ()
  | cons event rest ih => exact (tells_tell event).bind ih

theorem tells_tellIf (said : Bool) (event : Event) :
    (tellIf said event).Tells () (if said then [event] else []) := by
  cases said with
  | true => exact tells_tell event
  | false => exact tells_pure ()

theorem tells_refuseIf {wrong : Bool} (h : wrong = false) (error : OutlineError) :
    (refuseIf wrong error).Tells () [] := by
  rw [refuseIf, h]
  exact tells_pure ()

theorem fails_refuseIf {wrong : Bool} (h : wrong = true) (error : OutlineError) :
    (refuseIf wrong error).Fails error := by
  rw [refuseIf, h]
  exact fails_throw error

-- Of the errors of several refusals the first one counts.
theorem forM_refuseIf {ι : Type} (items : List ι) (wrong : ι → Bool) (error : ι → OutlineError) :
    match items.find? wrong with
    | none => (items.forM fun item => refuseIf (wrong item) (error item)).Tells () []
    | some first =>
      (items.forM fun item => refuseIf (wrong item) (error item)).Fails (error first) := by
  induction items with
  | nil => exact tells_pure ()
  | cons item rest ih =>
    cases h : wrong item with
    | true =>
      rw [List.find?_cons_of_pos h]
      exact (fails_refuseIf h _).bind _
    | false =>
      rw [List.find?_cons_of_neg (by simp [h])]
      have hitem := tells_refuseIf h (error item)
      cases hrest : rest.find? wrong with
      | none =>
        rw [hrest] at ih
        exact hitem.bind ih
      | some first =>
        rw [hrest] at ih
        exact hitem.bind_fails ih

end Telling

open Telling

namespace Outline

-- What has to hold before any endpoint is looked at.
def check (o : Outline σ) : Telling Unit := do
  refuseIf (Text.isBlank o.info.title) .blankTitle
  refuseIf (Text.isBlank o.info.version) .blankVersion
  o.requirements.forM fun r => refuseIf (!o.schemes.contains r.scheme) (.unknownScheme r.scheme)

theorem check_fault? (o : Outline σ) :
    match o.fault? with
    | none => o.check.Tells () []
    | some error => o.check.Fails error := by
  rw [fault?, check]
  cases Text.isBlank o.info.title with
  | true => exact (fails_refuseIf rfl _).bind _
  | false =>
    have hpast := tells_refuseIf rfl .blankTitle
    cases Text.isBlank o.info.version with
    | true =>
      refine hpast.bind_fails ?_
      exact (fails_refuseIf rfl _).bind _
    | false =>
      have hnext := tells_refuseIf rfl .blankVersion
      have hschemes := forM_refuseIf o.requirements (fun r => !o.schemes.contains r.scheme)
        fun r => .unknownScheme r.scheme
      rw [unknownScheme?]
      cases hfind : o.requirements.find? fun r => !o.schemes.contains r.scheme with
      | none =>
        rw [hfind] at hschemes
        refine hpast.bind ?_
        exact hnext.bind hschemes
      | some r =>
        rw [hfind] at hschemes
        refine hpast.bind_fails ?_
        exact hnext.bind_fails hschemes

end Outline

variable [SchemaView σ]

-- What is kept while the endpoints are gone through: the names that operations had, and the
-- operations.
structure Progress where
  ids : List String := []
  paths : Paths := []

namespace Progress

-- One endpoint: what there is to tell about it, and its operation.
def place (tags : Path.Tagging) (now : Progress) (p : Placed σ) : Telling Progress := do
  let e := p.endpoint
  let item := (now.paths.get? p.key).getD []
  tellIf (now.ids.contains e.operationId) (.repeatedId e.operationId)
  e.bodyEvents.forM tell
  (e.parameterEvents (Path.analyze e.path)).forM tell
  tellIf (item.contains e.method.text) (.overwritten p.key e.method.text e.operationId)
  tell (.assembled p.key e.method.text e.operationId)
  return { ids := now.ids ++ [e.operationId], paths := addOperation tags now.paths p }

-- How far things are after some endpoints.
def after (tags : Path.Tagging) (earlier : List (Placed σ)) : Progress where
  ids := earlier.map fun p => p.endpoint.operationId
  paths := operations tags earlier

theorem contains_ids_after (tags : Path.Tagging) (earlier : List (Placed σ)) (id : String) :
    (after tags earlier).ids.contains id =
      earlier.any fun q => q.endpoint.operationId = id := by
  rw [Bool.eq_iff_iff]
  simp [after]

-- A method is there already just if an earlier endpoint has it for the same path.
theorem contains_paths_after (tags : Path.Tagging) (earlier : List (Placed σ)) (p : Placed σ) :
    (((after tags earlier).paths.get? p.key).getD []).contains p.endpoint.method.text =
      isTaken earlier p := by
  have hitem : ((after tags earlier).paths.get? p.key).getD [] =
      publishedItem tags earlier p.key := by
    rw [after, getD_get?_operations, ofList_contributions]
  have hwinner : (winner earlier p.key p.endpoint.method).isSome = isTaken earlier p := by
    rw [winner_eq_find?_reverse, List.isSome_find?, List.any_reverse, Bool.eq_iff_iff]
    simp only [isTaken, List.any_eq_true, decide_eq_true_eq, Bool.and_eq_true]
    rfl
  rw [hitem, Entries.contains, get?_publishedItem, Option.isSome_map, hwinner]

theorem place_after (tags : Path.Tagging) (earlier : List (Placed σ)) (p : Placed σ) :
    (place tags (after tags earlier) p).Tells (after tags (earlier ++ [p]))
      (placingEvents earlier p) := by
  have hnext : after tags (earlier ++ [p]) = {
      ids := (after tags earlier).ids ++ [p.endpoint.operationId]
      paths := addOperation tags (after tags earlier).paths p } := by
    simp only [after, List.map_append, List.map_singleton, operations_append_singleton]
  have hevents : placingEvents earlier p =
      (if (after tags earlier).ids.contains p.endpoint.operationId then
        [.repeatedId p.endpoint.operationId] else []) ++
      (p.endpoint.bodyEvents ++
      (p.endpoint.parameterEvents (Path.analyze p.endpoint.path) ++
      ((if (((after tags earlier).paths.get? p.key).getD []).contains p.endpoint.method.text then
        [.overwritten p.key p.endpoint.method.text p.endpoint.operationId] else []) ++
      ([.assembled p.key p.endpoint.method.text p.endpoint.operationId] ++ [])))) := by
    rw [contains_ids_after, contains_paths_after]
    simp only [placingEvents, List.append_assoc, List.append_nil]
  rw [hnext, hevents]
  refine (tells_tellIf _ _).bind ?_
  refine (tells_forM_tell _).bind ?_
  refine (tells_forM_tell _).bind ?_
  refine (tells_tellIf _ _).bind ?_
  exact (tells_tell _).bind (tells_pure _)

theorem foldlM_place (tags : Path.Tagging) (earlier later : List (Placed σ)) :
    (later.foldlM (place tags) (after tags earlier)).Tells (after tags (earlier ++ later))
      (eventsAfter earlier later) := by
  induction later generalizing earlier with
  | nil =>
    rw [List.append_nil]
    exact tells_pure _
  | cons p rest ih =>
    have hrest := ih (earlier ++ [p])
    rw [List.append_assoc, List.singleton_append] at hrest
    exact (place_after tags earlier p).bind hrest

end Progress

namespace Outline

-- The document, made step by step.
def make (o : Outline σ) : Telling Document := do
  o.check
  let done ← o.placed.foldlM (Progress.place o.tags) {}
  return ⟨.object (o.front ++ [("paths", .object (done.paths.mapValues .object))])⟩

-- Going step by step comes to what `assemble` says, and tells of nothing if it fails.
theorem make_assemble (o : Outline σ) :
    match o.assemble with
    | .ok (d, events) => o.make.Tells d events
    | .error error => o.make.Fails error := by
  have hcheck := o.check_fault?
  rw [assemble]
  cases hfault : o.fault? with
  | some error =>
    rw [hfault] at hcheck
    exact hcheck.bind _
  | none =>
    rw [hfault] at hcheck
    have hplaced := Progress.foldlM_place o.tags [] o.placed
    have hdocument : o.render = .object (o.front ++ [("paths",
        .object ((Progress.after o.tags o.placed).paths.mapValues .object))]) := by
      rw [Progress.after, mapValues_operations, render_eq]
    have hevents : eventsAfter [] o.placed = [] ++ (eventsAfter [] o.placed ++ []) := by
      rw [List.append_nil, List.nil_append]
    rw [hdocument, hevents]
    refine hcheck.bind ?_
    refine hplaced.bind ?_
    exact tells_pure _

-- What comes of an outline says all that happens on the way.
theorem make_congr {o o' : Outline σ} (h : o.assemble = o'.assemble) : o.make = o'.make := by
  have hmake := o.make_assemble
  have hmake' := o'.make_assemble
  rw [h] at hmake
  refine ExceptT.ext (StateT.ext fun told => ?_)
  cases hresult : o'.assemble with
  | error error =>
    rw [hresult] at hmake hmake'
    exact (hmake told).trans (hmake' told).symm
  | ok result =>
    rw [hresult] at hmake hmake'
    exact (hmake told).trans (hmake' told).symm

end Outline

end ApiDescription
