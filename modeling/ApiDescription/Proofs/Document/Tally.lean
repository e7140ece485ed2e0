import ApiDescription.Proofs.Document.Embedded
import ApiDescription.Proofs.Document.Progress

namespace ApiDescription

section Repeats

variable {α κ : Type} [BEq κ] [LawfulBEq κ]

-- The items that have the key of an item before them, be it one of `earlier` or of their own list.
def repeatsAfter (key : α → κ) (earlier : List α) : List α → List α
  | [] => []
  | item :: rest =>
    (if key item ∈ earlier.map key then [item] else []) ++
      repeatsAfter key (earlier ++ [item]) rest

-- An item either brings a new key or repeats one.
theorem length_repeatsAfter (key : α → κ) (earlier items : List α) :
    (repeatsAfter key earlier items).length + ((earlier ++ items).map key).eraseDups.length =
      items.length + (earlier.map key).eraseDups.length := by
  induction items generalizing earlier with
  | nil => simp [repeatsAfter]
  | cons item rest ih =>
    have hrest := ih (earlier ++ [item])
    have hmap : (earlier ++ [item]).map key = earlier.map key ++ [key item] := List.map_append
    rw [List.append_assoc, List.singleton_append, hmap, eraseDups_append_singleton] at hrest
    by_cases h : key item ∈ earlier.map key
    · rw [if_pos h] at hrest
      simp only [repeatsAfter, if_pos h, List.singleton_append, List.length_cons]
      omega
    · rw [if_neg h, List.length_append, List.length_singleton] at hrest
      simp only [repeatsAfter, if_neg h, List.nil_append, List.length_cons]
      omega

theorem mem_repeatsAfter {key : α → κ} {earlier items : List α} {item : α}
    (h : item ∈ repeatsAfter key earlier items) :
    ∃ before after, items = before ++ item :: after ∧
      ∃ other ∈ earlier ++ before, key other = key item := by
  induction items generalizing earlier with
  | nil => cases h
  | cons first rest ih =>
    rcases List.mem_append.mp h with hm | hm
    · split at hm
      · rename_i hkey
        obtain rfl := List.mem_singleton.mp hm
        obtain ⟨other, ho, hk⟩ := List.mem_map.mp hkey
        exact ⟨[], rest, rfl, other, by simpa using ho, hk⟩
      · cases hm
    · obtain ⟨before, after, rfl, other, ho, hk⟩ := ih hm
      exact ⟨first :: before, after, rfl, other, by simpa using ho, hk⟩

end Repeats

variable {σ : Type}

-- The events of one level with one message.
def told (level : Level) (message : String) (events : List Event) : List Event :=
  events.filter fun event => event.level = level && event.message = message

@[simp] theorem told_append (level : Level) (message : String) (events more : List Event) :
    told level message (events ++ more) =
      told level message events ++ told level message more := List.filter_append ..

namespace Endpoint

-- The path and the method under which a document shows an endpoint.
def place (e : Endpoint σ) : String × String := ((Path.analyze e.path).templated, e.method.text)

def assembled (e : Endpoint σ) : Event :=
  .assembled (Path.analyze e.path).templated e.method.text e.operationId

def overwriting (e : Endpoint σ) : Event :=
  .overwritten (Path.analyze e.path).templated e.method.text e.operationId

end Endpoint

-- The path and the method of each operation that a document shows.
def Document.places (d : Document) : List (String × String) :=
  (d.value.under "paths").flatMap fun paths => paths.entries.flatMap fun item =>
    item.2.entries.map fun operation => (item.1, operation.1)

-- The texts that tell of an operation and of what it shares with an earlier one.
def placingMessages : List String := [
  "assembled operation", "operation overwritten by a later endpoint", "duplicate operationId"]

theorem message_of_teller {event : Event} (h : event.teller = "oasgen_core::oas::params") :
    event.message ∉ placingMessages := by
  cases event with
  | unmatchedParameter operationId name path =>
    -- The path may be any text, but what stands before it tells the message from the three.
    have hfirst : (Event.unmatchedParameter operationId name path).message.toList.head? =
        some 'p' := by
      change ("path parameter has no matching placeholder in '" ++ path ++ "'").toList.head? = _
      rw [String.toList_append, String.toList_append]
      rfl
    intro hm
    simp only [placingMessages, List.mem_cons, List.not_mem_nil, or_false] at hm
    rcases hm with hm | hm | hm <;> rw [hm] at hfirst <;> exact absurd hfirst (by decide)
  | undeclaredParameter operationId name =>
    change "undeclared path parameter, falling back to string" ∉ placingMessages
    decide
  | surplusBodies operationId ignored =>
    change "multiple body parameters declared, using the first" ∉ placingMessages
    decide
  | _ => simp [Event.teller] at h

theorem told_of_teller {events : List Event}
    (h : ∀ event ∈ events, event.teller = "oasgen_core::oas::params") (level : Level)
    {message : String} (hmessage : message ∈ placingMessages) : told level message events = [] := by
  rw [told, List.filter_eq_nil_iff]
  intro event hm hsaid
  have hsame : event.message = message := by simpa using (Bool.and_eq_true_iff.mp hsaid).2
  exact message_of_teller (h event hm) (hsame ▸ hmessage)

theorem told_ite (level : Level) (message : String) (said : Prop) [Decidable said]
    (events : List Event) :
    told level message (if said then events else []) =
      if said then told level message events else [] := by
  split <;> rfl

theorem Endpoint.teller_bodyEvents (e : Endpoint σ) :
    ∀ event ∈ e.bodyEvents, event.teller = "oasgen_core::oas::params" := by
  intro event hm
  rw [bodyEvents] at hm
  split at hm
  · cases hm
  · rw [List.mem_singleton.mp hm]
    rfl

theorem Endpoint.teller_parameterEvents (e : Endpoint σ) (t : Path.Template) :
    ∀ event ∈ e.parameterEvents t, event.teller = "oasgen_core::oas::params" := by
  intro event hm
  rcases List.mem_append.mp hm with hm | hm
  · obtain ⟨name, _, rfl⟩ := List.mem_map.mp hm
    rfl
  · obtain ⟨p, _, rfl⟩ := List.mem_map.mp hm
    rfl

-- Whatever is told of its parameters, a placing says of itself what these three say.
theorem told_placingEvents (earlier : List (Placed σ)) (p : Placed σ) (level : Level)
    {message : String} (hmessage : message ∈ placingMessages) :
    told level message (placingEvents earlier p) =
      (if earlier.any (fun q => q.endpoint.operationId = p.endpoint.operationId) then
        told level message [.repeatedId p.endpoint.operationId] else []) ++
      (if isTaken earlier p then told level message [p.endpoint.overwriting] else []) ++
      told level message [p.endpoint.assembled] := by
  have hbody := told_of_teller p.endpoint.teller_bodyEvents level hmessage
  have hparameters :=
    told_of_teller (p.endpoint.teller_parameterEvents (Path.analyze p.endpoint.path)) level hmessage
  simp only [placingEvents, told_append, told_ite, hbody, hparameters, List.append_nil]
  rfl

theorem isTaken_iff (earlier : List (Placed σ)) (p : Placed σ) :
    isTaken earlier p = true ↔
      p.endpoint.place ∈ (earlier.map Placed.endpoint).map Endpoint.place := by
  have hplace : ∀ q : Placed σ, q.key = p.key ∧ q.endpoint.method = p.endpoint.method ↔
      q.endpoint.place = p.endpoint.place := by
    intro q
    rw [Endpoint.place, Endpoint.place, Prod.mk.injEq, Method.text_injective.eq_iff]
    rfl
  simp only [isTaken, List.any_eq_true, Bool.and_eq_true, decide_eq_true_eq, hplace, List.map_map,
    List.mem_map, Function.comp_apply]

theorem told_assembled (earlier : List (Placed σ)) (p : Placed σ) :
    told .debug "assembled operation" (placingEvents earlier p) = [p.endpoint.assembled] := by
  rw [told_placingEvents earlier p .debug (by decide)]
  split <;> split <;> rfl

theorem told_overwritten (earlier : List (Placed σ)) (p : Placed σ) :
    told .warning "operation overwritten by a later endpoint" (placingEvents earlier p) =
      if p.endpoint.place ∈ (earlier.map Placed.endpoint).map Endpoint.place then
        [p.endpoint.overwriting] else [] := by
  rw [told_placingEvents earlier p .warning (by decide),
    ← if_congr (isTaken_iff earlier p) rfl rfl]
  split <;> split <;> rfl

theorem told_repeatedId (earlier : List (Placed σ)) (p : Placed σ) :
    told .warning "duplicate operationId" (placingEvents earlier p) =
      if p.endpoint.operationId ∈ (earlier.map Placed.endpoint).map Endpoint.operationId then
        [.repeatedId p.endpoint.operationId] else [] := by
  have hany : (earlier.any fun q => q.endpoint.operationId = p.endpoint.operationId) = true ↔
      p.endpoint.operationId ∈ (earlier.map Placed.endpoint).map Endpoint.operationId := by
    simp
  rw [told_placingEvents earlier p .warning (by decide), ← if_congr hany rfl rfl]
  split <;> split <;> rfl

theorem assembled_eventsAfter (earlier later : List (Placed σ)) :
    told .debug "assembled operation" (eventsAfter earlier later) =
      (later.map Placed.endpoint).map Endpoint.assembled := by
  induction later generalizing earlier with
  | nil => rfl
  | cons p rest ih => rw [eventsAfter, told_append, told_assembled, ih]; rfl

-- What each endpoint is told to repeat of those before it, a whole row of endpoints repeats.
theorem repeats_eventsAfter {κ : Type} [BEq κ] [LawfulBEq κ] {level : Level} {message : String}
    (key : Endpoint σ → κ) (event : Endpoint σ → Event)
    (hstep : ∀ (earlier : List (Placed σ)) (p : Placed σ),
      told level message (placingEvents earlier p) =
        if key p.endpoint ∈ (earlier.map Placed.endpoint).map key then [event p.endpoint] else [])
    (earlier later : List (Placed σ)) :
    told level message (eventsAfter earlier later) =
      (repeatsAfter key (earlier.map Placed.endpoint) (later.map Placed.endpoint)).map event := by
  induction later generalizing earlier with
  | nil => rfl
  | cons p rest ih =>
    have hrest := ih (earlier ++ [p])
    rw [List.map_append, List.map_singleton] at hrest
    rw [eventsAfter, told_append, hstep, hrest, List.map_cons, repeatsAfter, List.map_append]
    split <;> rfl

variable [SchemaView σ]

-- An endpoint adds an entry to the operations just if its path and method are new.
theorem size_operations (tags : Path.Tagging) (placed : List (Placed σ)) :
    (operations tags placed).size =
      ((placed.map Placed.endpoint).map Endpoint.place).eraseDups.length := by
  induction placed using List.reverseRecOn with
  | nil => rfl
  | append_singleton placed p ih =>
    -- The item of the path comes in with the entry of `p`, and counts instead of what was there.
    have hsize := Entries.size_insert (operations tags placed) p.key
      (Entries.insert (((operations tags placed).get? p.key).getD []) p.endpoint.method.text
        (p.endpoint.operation tags p.security))
    have htaken : p.endpoint.method.text ∈
        Entries.keys (((operations tags placed).get? p.key).getD []) ↔
          p.endpoint.place ∈ (placed.map Placed.endpoint).map Endpoint.place := by
      rw [← Entries.contains_iff, ← isTaken_iff, ← Progress.contains_paths_after tags placed p]
      rfl
    rw [Entries.length_insert] at hsize
    rw [operations_append_singleton, addOperation, List.map_append, List.map_append,
      List.map_singleton, List.map_singleton, eraseDups_append_singleton]
    by_cases h : p.endpoint.place ∈ (placed.map Placed.endpoint).map Endpoint.place
    · rw [if_pos (htaken.mpr h)] at hsize
      rw [if_pos h]
      omega
    · rw [if_neg (htaken.not.mpr h)] at hsize
      rw [if_neg h, List.length_append, List.length_singleton]
      omega

theorem length_places (o : Outline σ) :
    (⟨o.render⟩ : Document).places.length = (operations o.tags o.placed).size := by
  rw [Document.places, Json.under_of_get? (get?_paths_render o), List.flatMap_singleton,
    ← mapValues_operations]
  simp [Json.entries, Entries.mapValues, Entries.size, List.length_flatMap, List.flatMap_map]

-- What is told of some endpoints and what a document shows of them, against each other.
structure Accounts (endpoints : List (Endpoint σ)) (d : Document) (events : List Event) :
    Prop where
  assembled : told .debug "assembled operation" events = endpoints.map Endpoint.assembled
  -- An endpoint that takes the place of an earlier one is told of, and no other.
  overwritten : told .warning "operation overwritten by a later endpoint" events =
    (repeatsAfter Endpoint.place [] endpoints).map Endpoint.overwriting
  named : ∀ event ∈ told .warning "operation overwritten by a later endpoint" events,
    ∃ before e after, endpoints = before ++ e :: after ∧
      (∃ other ∈ before, other.place = e.place) ∧
      event.fields = [
        ("path", .string (Path.analyze e.path).templated),
        ("method", .string e.method.text),
        ("alias", .string e.operationId)]
  operations :
    (told .warning "operation overwritten by a later endpoint" events).length + d.places.length =
      endpoints.length
  repeated : told .warning "duplicate operationId" events =
    (repeatsAfter Endpoint.operationId [] endpoints).map fun e => .repeatedId e.operationId
  ids : (told .warning "duplicate operationId" events).length +
    (endpoints.map Endpoint.operationId).eraseDups.length = endpoints.length

theorem accounts_render (o : Outline σ) :
    Accounts (o.placed.map Placed.endpoint) ⟨o.render⟩ (eventsAfter [] o.placed) := by
  have hoverwritten := repeats_eventsAfter Endpoint.place Endpoint.overwriting told_overwritten []
    o.placed
  have hrepeated := repeats_eventsAfter Endpoint.operationId
    (fun e => .repeatedId e.operationId) told_repeatedId [] o.placed
  refine ⟨assembled_eventsAfter [] o.placed, hoverwritten, ?_, ?_, hrepeated, ?_⟩
  · intro event hm
    rw [hoverwritten] at hm
    obtain ⟨e, he, rfl⟩ := List.mem_map.mp hm
    obtain ⟨before, after, hsplit, other, ho, hplace⟩ := mem_repeatsAfter he
    exact ⟨before, e, after, hsplit, ⟨other, ho, hplace⟩, rfl⟩
  · have hcount := length_repeatsAfter Endpoint.place [] (o.placed.map Placed.endpoint)
    rw [hoverwritten, List.length_map, length_places, size_operations]
    exact hcount
  · have hcount := length_repeatsAfter Endpoint.operationId [] (o.placed.map Placed.endpoint)
    rw [hrepeated, List.length_map]
    exact hcount

-- Each endpoint is told of once, and either a document shows its operation or a warning names what
-- took its place.
theorem operations_accounted_for (info : Info) (calls : List (Call σ)) (d : Document)
    (events : List Event) (h : build info calls = .ok (d, events)) :
    Accounts ((calls.filterMap Call.group?).flatMap Group.endpoints) d events ∧
      (Outline.ofCalls info calls).make.Tells d events := by
  have hmake := (Outline.ofCalls info calls).make_assemble
  rw [← build, h] at hmake
  obtain ⟨_, rfl, rfl⟩ := (Outline.assemble_eq_ok_iff ..).mp h
  have haccounts := accounts_render (Outline.ofCalls info calls)
  have hgroups : (Outline.ofCalls info calls).groups = calls.filterMap Call.group? := by
    rw [Outline.ofCalls_eq]
  rw [Outline.placed_eq, hgroups, endpoints_placedIn] at haccounts
  rw [Outline.placed_eq, hgroups] at hmake ⊢
  exact ⟨haccounts, hmake⟩

-- Three endpoints of different groups for one path and method, and two with one name.
def crowdedCalls : List (Call Schema) := [
  .group ⟨listedUsers, none⟩,
  .group ⟨pagedUsers, some usersReader⟩,
  .scheme "auth" { mechanism := .bearer },
  .group ⟨[⟨.get, "/users#all", "listUsers", none, [], .string, [], none⟩], none⟩]

theorem operations_accounted_for_crowded :
    ∃ d events, build usersInfo crowdedCalls = .ok (d, events) ∧
      Accounts ((crowdedCalls.filterMap Call.group?).flatMap Group.endpoints) d events ∧
      (Outline.ofCalls usersInfo crowdedCalls).make.Tells d events ∧
      told .warning "operation overwritten by a later endpoint" events = [
        .overwritten "/users" "get" "pageUsers", .overwritten "/users" "get" "listUsers"] ∧
      d.places = [("/users", "get"), ("/users", "post")] ∧
      told .warning "duplicate operationId" events = [.repeatedId "listUsers"] ∧
      (told .debug "assembled operation" events).length = 4 := by
  have hbuild : build usersInfo crowdedCalls = .ok _ :=
    Outline.assemble_of_valid ((Outline.fault?_eq_none_iff _).mp (by decide))
  obtain ⟨haccounts, hmake⟩ := operations_accounted_for usersInfo crowdedCalls _ _ hbuild
  refine ⟨_, _, hbuild, haccounts, hmake, ?_, ?_, ?_, ?_⟩
  · decide +kernel
  · with_unfolding_all rfl
  · decide +kernel
  · decide +kernel

end ApiDescription
