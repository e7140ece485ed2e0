import ApiDescription.Endpoint.Reading
import ApiDescription.Proofs.Document.Paths

namespace ApiDescription

namespace Json

def mapEntries (f : String → Json → Json) : Json → Json
  | object entries => object (entries.map fun entry => (entry.1, f entry.1 entry.2))
  | other => other

def erase (name : String) : Json → Json
  | object entries => object (entries.filter fun entry => entry.1 ≠ name)
  | other => other

theorem erase_present (name : String) (entries : List (Option (String × Json))) :
    (present entries).erase name =
      present (entries.map (Option.filter fun entry => entry.1 ≠ name)) := by
  simp only [present, erase, List.filter_filterMap, List.filterMap_map]
  rfl

end Json

variable {σ : Type}

-- Whether the last endpoint for a path and a method is one of `endpoints`, if the groups that come
-- after them are `later`.
def WinsIn (endpoints : List (Endpoint σ)) (later : List (Group σ)) (path : String)
    (method : Method) : Prop :=
  (∃ e ∈ endpoints, e.Maps path method) ∧
    ∀ g ∈ later, ∀ e ∈ g.endpoints, ¬e.Maps path method

instance (endpoints : List (Endpoint σ)) (later : List (Group σ)) (path : String)
    (method : Method) : Decidable (WinsIn endpoints later path method) :=
  inferInstanceAs (Decidable (_ ∧ _))

def mapPaths (f : String → Method → Json → Json) (paths : Json) : Json :=
  paths.mapEntries fun path item => item.mapEntries fun name operation =>
    match Entries.get? Method.names name with
    | some method => f path method operation
    | none => operation

-- The document with its operations changed, and all else as it is.
def Document.mapOperations (f : String → Method → Json → Json) (d : Document) : Json :=
  d.value.mapEntries fun key value => if key = "paths" then mapPaths f value else value

-- The paths with the winners shown in any way.
def publishedWith (render : String → Method → Placed σ → Json) (placed : List (Placed σ)) :
    Entries Json :=
  (placed.map Placed.key).eraseDups.map fun path =>
    (path, .object ((methodsAt placed path).filterMap fun method =>
      (winner placed path method).map fun p => (method.text, render path method p)))

theorem publishedWith_congr {render render' : String → Method → Placed σ → Json}
    {placed placed' : List (Placed σ)}
    (he : placed.map Placed.endpoint = placed'.map Placed.endpoint)
    (hw : ∀ path method, (winner placed path method).map (render path method) =
      (winner placed' path method).map (render' path method)) :
    publishedWith render placed = publishedWith render' placed' := by
  have hkeys : placed.map Placed.key = placed'.map Placed.key := by
    have h := congrArg (List.map fun e => (Path.analyze e.path).templated) he
    simp only [List.map_map] at h
    exact h
  have hmethods : ∀ path, methodsAt placed path = methodsAt placed' path := by
    intro path
    have h := congrArg (fun es => ((es.filter fun e : Endpoint σ =>
      (Path.analyze e.path).templated = path).map Endpoint.method).eraseDups) he
    simp only [List.filter_map, List.map_map] at h
    exact h
  have hentry : ∀ path method,
      (winner placed path method).map (fun p => (method.text, render path method p)) =
        (winner placed' path method).map fun p => (method.text, render' path method p) := by
    intro path method
    have h := congrArg (Option.map fun operation => (method.text, operation)) (hw path method)
    simp only [Option.map_map] at h
    exact h
  simp only [publishedWith, hkeys, hmethods, hentry]

theorem mapPaths_publishedWith (f : String → Method → Json → Json)
    (render : String → Method → Placed σ → Json) (placed : List (Placed σ)) :
    mapPaths f (.object (publishedWith render placed)) =
      .object (publishedWith (fun path method p => f path method (render path method p))
        placed) := by
  simp only [mapPaths, publishedWith, Json.mapEntries, List.map_map, List.map_filterMap,
    Option.map_map, Function.comp_def, Method.get?_names]

theorem winner_group (endpoints : List (Endpoint σ)) (security : Option Requirement)
    (path : String) (method : Method) :
    winner (endpoints.map fun e => ⟨e, security⟩) path method =
      (endpoints.findRev? fun e => e.Maps path method).map fun e => ⟨e, security⟩ := by
  rw [winner, List.findRev?_eq_find?_reverse, List.findRev?_eq_find?_reverse, ← List.map_reverse,
    List.find?_map]
  rfl

theorem winner_placedIn (groups later : List (Group σ)) (endpoints : List (Endpoint σ))
    (security : Option Requirement) (path : String) (method : Method) :
    winner (placedIn (groups ++ ⟨endpoints, security⟩ :: later)) path method =
      (winner (placedIn later) path method).or
        (((endpoints.findRev? fun e => e.Maps path method).map fun e => ⟨e, security⟩).or
          (winner (placedIn groups) path method)) := by
  rw [placedIn_append, placedIn_cons, winner_append, winner_append, winner_group, Option.or_assoc]

theorem winsIn_iff (endpoints : List (Endpoint σ)) (later : List (Group σ)) (path : String)
    (method : Method) :
    WinsIn endpoints later path method ↔
      winner (placedIn later) path method = none ∧
        ∃ e, endpoints.findRev? (fun e => e.Maps path method) = some e := by
  have hlater : winner (placedIn later) path method = none ↔
      ∀ g ∈ later, ∀ e ∈ g.endpoints, ¬e.Maps path method := by
    rw [winner_eq_none_iff]
    constructor
    · intro h g hg e he
      exact h ⟨e, g.security⟩ (List.mem_flatMap.mpr ⟨g, hg, List.mem_map_of_mem he⟩)
    · intro h p hp
      obtain ⟨g, hg, hm⟩ := List.mem_flatMap.mp hp
      obtain ⟨e, he, rfl⟩ := List.mem_map.mp hm
      exact h g hg e he
  have hown : (∃ e, endpoints.findRev? (fun e => e.Maps path method) = some e) ↔
      ∃ e ∈ endpoints, e.Maps path method := by
    rw [← Option.isSome_iff_exists, List.findRev?_eq_find?_reverse, List.find?_isSome]
    simp
  rw [WinsIn, hlater, hown, and_comm]

theorem winner_of_winsIn {endpoints : List (Endpoint σ)} {later : List (Group σ)} {path : String}
    {method : Method} (h : WinsIn endpoints later path method) :
    ∃ e, ∀ (groups : List (Group σ)) (security : Option Requirement),
      winner (placedIn (groups ++ ⟨endpoints, security⟩ :: later)) path method =
        some ⟨e, security⟩ := by
  obtain ⟨hlater, e, he⟩ := (winsIn_iff endpoints later path method).mp h
  refine ⟨e, fun groups security => ?_⟩
  rw [winner_placedIn, hlater, he]
  rfl

theorem winner_of_not_winsIn {endpoints : List (Endpoint σ)} {later : List (Group σ)}
    {path : String} {method : Method} (h : ¬WinsIn endpoints later path method)
    (groups : List (Group σ)) (security security' : Option Requirement) :
    winner (placedIn (groups ++ ⟨endpoints, security⟩ :: later)) path method =
      winner (placedIn (groups ++ ⟨endpoints, security'⟩ :: later)) path method := by
  rw [winner_placedIn, winner_placedIn]
  cases hlater : winner (placedIn later) path method with
  | some p => rfl
  | none =>
    cases hown : endpoints.findRev? (fun e => e.Maps path method) with
    | none => rfl
    | some e => exact absurd ((winsIn_iff ..).mpr ⟨hlater, e, hown⟩) h

def Outline.withGroup (o : Outline σ) (groups : List (Group σ)) (g : Group σ)
    (later : List (Group σ)) : Outline σ :=
  { o with groups := groups ++ g :: later }

def Outline.withTags (o : Outline σ) (tags : Path.Tagging) : Outline σ := { o with tags }

theorem Outline.ofCalls_group (info : Info) (before after : List (Call σ)) (g : Group σ) :
    ofCalls info (before ++ .group g :: after) =
      (ofCalls info (before ++ after)).withGroup (before.filterMap Call.group?) g
        (after.filterMap Call.group?) := by
  simp [ofCalls_eq, withGroup, List.filterMap_cons, Call.server?, Call.scheme?, Call.definition?,
    Call.security?, Call.group?, Call.tagging?]

-- All that a run says but for the tags.
theorem Outline.ofCalls_tags (info : Info) {calls calls' : List (Call σ)}
    (h : calls.filter (fun call => call.tagging?.isNone) =
      calls'.filter fun call => call.tagging?.isNone) :
    ofCalls info calls' =
      (ofCalls info calls).withTags
        ((calls'.filterMap Call.tagging?).getLast?.getD Path.defaultTags) := by
  have hkind : ∀ {β : Type} (part : Call σ → Option β),
      (∀ tags, part (.tags tags) = none) → calls.filterMap part = calls'.filterMap part := by
    intro β part hpart
    refine filterMap_eq_of_filter_eq (fun call hk => ?_) h
    cases call <;> simp_all [Call.tagging?]
  rw [ofCalls_eq, ofCalls_eq, hkind Call.server? (fun _ => rfl), hkind Call.scheme? (fun _ => rfl),
    hkind Call.definition? (fun _ => rfl), hkind Call.security? (fun _ => rfl),
    hkind Call.group? (fun _ => rfl)]
  rfl

-- Takes the protection out of the operations that a group wins.
def hideSecurity (endpoints : List (Endpoint σ)) (later : List (Group σ)) (path : String)
    (method : Method) (operation : Json) : Json :=
  if WinsIn endpoints later path method then operation.erase "security" else operation

variable [SchemaView σ]

theorem erase_tags_operation (tags tags' : Path.Tagging) (e : Endpoint σ)
    (security : Option Requirement) :
    (e.operation tags security).erase "tags" = (e.operation tags' security).erase "tags" := by
  have hgone : ∀ names : List String, Option.filter (fun entry => entry.1 ≠ "tags")
      (if names = [] then none else Json.field "tags" (Json.strings names)) = none := by
    intro names
    split <;> rfl
  simp only [Endpoint.operation, Json.erase_present, List.map_cons, hgone]

theorem erase_security_operation (tags : Path.Tagging) (e : Endpoint σ)
    (security security' : Option Requirement) :
    (e.operation tags security).erase "security" =
      (e.operation tags security').erase "security" := by
  have hgone : ∀ requirement : Option Requirement,
      Option.filter (fun entry => entry.1 ≠ "security")
        (Json.field? "security" requirement Requirement.toJson) = none := by
    intro requirement
    cases requirement <;> rfl
  simp only [Endpoint.operation, Json.erase_present, List.map_cons, hgone]

theorem get?_security_operation (tags : Path.Tagging) (e : Endpoint σ)
    (security : Option Requirement) :
    (e.operation tags security).get? "security" = security.map Requirement.toJson := by
  simp [Endpoint.operation]

def Outline.frontFields (o : Outline σ) : List (Option (String × Json)) := [
  Json.field "openapi" (.string "3.0.0"),
  Json.field "info" o.info.toJson,
  if o.servers = [] then none else Json.field "servers" (.array (o.servers.map Server.toJson)),
  Json.field? "security" o.security Requirement.toJson,
  Json.field? "components" o.components id]

-- The entries of a document before its paths.
def Outline.front (o : Outline σ) : Entries Json := o.frontFields.filterMap id

theorem Outline.render_eq (o : Outline σ) :
    o.render = .object (o.front ++ [("paths", .object (publishedPaths o.tags o.placed))]) := by
  have happend : (o.frontFields ++
      [Json.field "paths" (.object (publishedPaths o.tags o.placed))]).filterMap id =
        o.front ++ [("paths", .object (publishedPaths o.tags o.placed))] :=
    List.filterMap_append
  rw [Outline.render, mapValues_operations, ← happend]
  rfl

theorem Outline.keys_front (o : Outline σ) :
    o.front.keys.Sublist ["openapi", "info", "servers", "security", "components"] := by
  refine Json.keys_filterMap_field ?_ _ _
  refine Json.keys_filterMap_field ?_ _ _
  refine Json.keys_filterMap_ite ?_ _ _ _
  refine Json.keys_filterMap_field? ?_ _ _ _
  exact Json.keys_filterMap_field? Json.keys_filterMap_nil _ _ _

theorem Outline.key_ne_paths {o : Outline σ} {entry : String × Json} (h : entry ∈ o.front) :
    entry.1 ≠ "paths" := by
  have hkey := o.keys_front.subset (List.mem_map_of_mem h)
  intro he
  rw [he] at hkey
  exact absurd hkey (by decide)

theorem mapOperations_render (o : Outline σ) (f : String → Method → Json → Json) :
    (⟨o.render⟩ : Document).mapOperations f =
      .object (o.front ++ [("paths", .object (publishedWith
        (fun path method p => f path method (p.endpoint.operation o.tags p.security))
        o.placed))]) := by
  have hfront : o.front.map (fun entry =>
      (entry.1, if entry.1 = "paths" then mapPaths f entry.2 else entry.2)) = o.front := by
    conv_rhs => rw [← List.map_id o.front]
    apply List.map_congr_left
    intro entry hm
    rw [if_neg (Outline.key_ne_paths hm)]
    rfl
  have hpaths := mapPaths_publishedWith f
    (fun _ _ p => p.endpoint.operation o.tags p.security) o.placed
  rw [Outline.render_eq, Document.mapOperations, Json.mapEntries, List.map_append, hfront]
  simp only [List.map_cons, List.map_nil, if_true]
  rw [← hpaths]
  rfl

-- The protection of one group shows in the operations that the group wins, and nowhere else.
theorem mapOperations_hideSecurity (o : Outline σ) (groups later : List (Group σ))
    (endpoints : List (Endpoint σ)) (security security' : Option Requirement) :
    (⟨(o.withGroup groups ⟨endpoints, security⟩ later).render⟩ : Document).mapOperations
        (hideSecurity endpoints later) =
      (⟨(o.withGroup groups ⟨endpoints, security'⟩ later).render⟩ : Document).mapOperations
        (hideSecurity endpoints later) := by
  have hwinner : ∀ path method,
      (winner (placedIn (groups ++ ⟨endpoints, security⟩ :: later)) path method).map (fun p =>
        hideSecurity endpoints later path method (p.endpoint.operation o.tags p.security)) =
      (winner (placedIn (groups ++ ⟨endpoints, security'⟩ :: later)) path method).map fun p =>
        hideSecurity endpoints later path method (p.endpoint.operation o.tags p.security) := by
    intro path method
    by_cases h : WinsIn endpoints later path method
    · obtain ⟨e, he⟩ := winner_of_winsIn h
      rw [he, he]
      simp [hideSecurity, h, erase_security_operation o.tags e security security']
    · rw [winner_of_not_winsIn h groups security security']
  have hendpoints : (placedIn (groups ++ ⟨endpoints, security⟩ :: later)).map Placed.endpoint =
      (placedIn (groups ++ ⟨endpoints, security'⟩ :: later)).map Placed.endpoint := by
    simp [Function.comp_def]
  rw [mapOperations_render, mapOperations_render]
  exact congrArg (fun paths => Json.object (o.front ++ [("paths", .object paths)]))
    (publishedWith_congr hendpoints hwinner)

theorem assemble_withTags {o : Outline σ} {d : Document} {events : List Event}
    (h : o.assemble = .ok (d, events)) (tags : Path.Tagging) :
    (o.withTags tags).assemble = .ok (⟨(o.withTags tags).render⟩, events) := by
  obtain ⟨hv, _, rfl⟩ := (Outline.assemble_eq_ok_iff ..).mp h
  have hv' : (o.withTags tags).Valid := ⟨hv.title, hv.version, hv.schemes⟩
  exact Outline.assemble_of_valid hv'

theorem mapOperations_eraseTags (o : Outline σ) (tags : Path.Tagging) :
    (⟨o.render⟩ : Document).mapOperations (fun _ _ operation => operation.erase "tags") =
      (⟨(o.withTags tags).render⟩ : Document).mapOperations fun _ _ operation =>
        operation.erase "tags" := by
  have hwinner : ∀ path method,
      (winner o.placed path method).map (fun p =>
        (p.endpoint.operation o.tags p.security).erase "tags") =
      (winner o.placed path method).map fun p =>
        (p.endpoint.operation tags p.security).erase "tags" := by
    intro path method
    simp only [erase_tags_operation o.tags tags]
  rw [mapOperations_render, mapOperations_render]
  exact congrArg (fun paths => Json.object (o.front ++ [("paths", .object paths)]))
    (publishedWith_congr rfl hwinner)

theorem operation_render_of_winsIn {endpoints : List (Endpoint σ)} {later : List (Group σ)}
    {path : String} {method : Method} (h : WinsIn endpoints later path method) (o : Outline σ)
    (groups : List (Group σ)) (security : Option Requirement) :
    ∃ operation,
      (⟨(o.withGroup groups ⟨endpoints, security⟩ later).render⟩ : Document).operation path method =
        some operation ∧
      operation.get? "security" = security.map Requirement.toJson := by
  obtain ⟨e, he⟩ := winner_of_winsIn h
  refine ⟨e.operation o.tags security, ?_, get?_security_operation o.tags e security⟩
  have hw : winner (o.withGroup groups ⟨endpoints, security⟩ later).placed path method =
      some ⟨e, security⟩ := he groups security
  rw [(publishes_render _).operation, hw]
  rfl

-- What is done to one group is seen only in its own operations, and what is done to the tags only
-- in the tags.
theorem group_and_tags_isolation :
    (∀ (info : Info) (before after : List (Call σ)) (endpoints : List (Endpoint σ))
        (security security' : Option Requirement) (d d' : Document) (events events' : List Event),
      build info (before ++ .group ⟨endpoints, security⟩ :: after) = .ok (d, events) →
      build info (before ++ .group ⟨endpoints, security'⟩ :: after) = .ok (d', events') →
      d.mapOperations (hideSecurity endpoints (after.filterMap Call.group?)) =
        d'.mapOperations (hideSecurity endpoints (after.filterMap Call.group?)) ∧
      ∀ path method, WinsIn endpoints (after.filterMap Call.group?) path method →
        ∃ operation operation',
          d.operation path method = some operation ∧
          d'.operation path method = some operation' ∧
          operation.get? "security" = security.map (fun r =>
            .array [.object [(r.scheme, .array (r.grants.map .string))]]) ∧
          operation'.get? "security" = security'.map fun r =>
            .array [.object [(r.scheme, .array (r.grants.map .string))]]) ∧
    (∀ (info : Info) (calls calls' : List (Call σ)) (d : Document) (events : List Event),
      calls.filter (fun call => call.tagging?.isNone) =
        calls'.filter (fun call => call.tagging?.isNone) →
      build info calls = .ok (d, events) →
      ∃ d', build info calls' = .ok (d', events) ∧
        d.mapOperations (fun _ _ operation => operation.erase "tags") =
          d'.mapOperations fun _ _ operation => operation.erase "tags") := by
  constructor
  · intro info before after endpoints security security' d d' events events' h h'
    obtain ⟨_, rfl, _⟩ := (Outline.assemble_eq_ok_iff ..).mp h
    obtain ⟨_, rfl, _⟩ := (Outline.assemble_eq_ok_iff ..).mp h'
    rw [Outline.ofCalls_group, Outline.ofCalls_group]
    refine ⟨mapOperations_hideSecurity .., fun path method hw => ?_⟩
    obtain ⟨operation, ho, hs⟩ := operation_render_of_winsIn hw
      (Outline.ofCalls info (before ++ after)) (before.filterMap Call.group?) security
    obtain ⟨operation', ho', hs'⟩ := operation_render_of_winsIn hw
      (Outline.ofCalls info (before ++ after)) (before.filterMap Call.group?) security'
    exact ⟨operation, operation', ho, ho', hs, hs'⟩
  · intro info calls calls' d events hcalls h
    obtain ⟨_, rfl, _⟩ := (Outline.assemble_eq_ok_iff ..).mp h
    rw [build, Outline.ofCalls_tags info hcalls]
    exact ⟨_, assemble_withTags h _, mapOperations_eraseTags ..⟩

theorem group_and_tags_isolation_users :
    ∃ d d' d'' events events',
      build usersInfo (usersCalls (some usersReader)) = .ok (d, events) ∧
      build usersInfo (usersCalls none) = .ok (d', events') ∧
      d.mapOperations (hideSecurity pagedUsers []) = d'.mapOperations (hideSecurity pagedUsers []) ∧
      (∃ operation operation', d.operation "/users" .get = some operation ∧
        d'.operation "/users" .get = some operation' ∧
        operation.get? "security" =
          some (.array [.object [("auth", .array [.string "read"])]]) ∧
        operation'.get? "security" = none) ∧
      build usersInfo (.tags (fun _ => ["all"]) :: usersCalls none) = .ok (d'', events') ∧
      d'.mapOperations (fun _ _ operation => operation.erase "tags") =
        d''.mapOperations fun _ _ operation => operation.erase "tags" := by
  have hv : ∀ security ∈ [none, some usersReader],
      (Outline.ofCalls usersInfo (usersCalls security)).Valid := by
    intro security hs
    rw [← Outline.fault?_eq_none_iff]
    simp only [List.mem_cons, List.not_mem_nil, or_false] at hs
    rcases hs with rfl | rfl <;> decide
  have h := Outline.assemble_of_valid (hv (some usersReader) (by simp))
  have h' := Outline.assemble_of_valid (hv none (by simp))
  have hw : WinsIn pagedUsers ([.scheme "auth" { mechanism := .bearer }].filterMap Call.group?)
      "/users" .get := by decide +kernel
  obtain ⟨hsame, hwon⟩ := group_and_tags_isolation.1 usersInfo [.group ⟨listedUsers, none⟩]
    [.scheme "auth" { mechanism := .bearer }] pagedUsers (some usersReader) none _ _ _ _ h h'
  obtain ⟨d'', h'', htags⟩ := group_and_tags_isolation.2 usersInfo (usersCalls none)
    (.tags (fun _ => ["all"]) :: usersCalls none) _ _ rfl h'
  exact ⟨_, _, d'', _, _, h, h', hsame, hwon "/users" .get hw, h'', htags⟩

end ApiDescription
