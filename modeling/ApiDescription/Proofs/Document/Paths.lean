import ApiDescription.Proofs.Document.Outline
import ApiDescription.Proofs.Json

namespace ApiDescription

variable {σ : Type}

theorem Method.text_injective : Function.Injective Method.text := by
  intro a b
  cases a <;> cases b <;> simp [text]

-- Whether an endpoint describes the operation at a path of the document and a method.
def Endpoint.Maps (e : Endpoint σ) (path : String) (method : Method) : Prop :=
  (Path.analyze e.path).templated = path ∧ e.method = method

instance (e : Endpoint σ) (path : String) (method : Method) : Decidable (e.Maps path method) :=
  inferInstanceAs (Decidable (_ ∧ _))

-- Of the endpoints for one path and method the last one wins.
def winner (placed : List (Placed σ)) (path : String) (method : Method) : Option (Placed σ) :=
  placed.findRev? fun p => p.endpoint.Maps path method

-- The methods that are declared for a path, in the order in which they first come.
def methodsAt (placed : List (Placed σ)) (path : String) : List Method :=
  ((placed.filter fun p => p.key = path).map fun p => p.endpoint.method).eraseDups

theorem winner_eq_none_iff (placed : List (Placed σ)) (path : String) (method : Method) :
    winner placed path method = none ↔ ∀ p ∈ placed, ¬p.endpoint.Maps path method := by
  simp [winner]

theorem winner_eq_find?_reverse (placed : List (Placed σ)) (path : String) (method : Method) :
    winner placed path method = placed.reverse.find? fun p => p.endpoint.Maps path method := by
  rw [winner, List.findRev?_eq_find?_reverse]

theorem mem_of_winner {placed : List (Placed σ)} {path : String} {method : Method} {p : Placed σ}
    (h : winner placed path method = some p) : p ∈ placed :=
  (of_findRev?_eq_some h).1

theorem maps_of_winner {placed : List (Placed σ)} {path : String} {method : Method} {p : Placed σ}
    (h : winner placed path method = some p) : p.endpoint.Maps path method :=
  of_decide_eq_true (of_findRev?_eq_some h).2

theorem winner_append (placed later : List (Placed σ)) (path : String) (method : Method) :
    winner (placed ++ later) path method =
      (winner later path method).or (winner placed path method) := by
  simp [winner]

variable [SchemaView σ]

-- What is published under a path: its methods, each with the operation of the winner.
def publishedItem (tags : Path.Tagging) (placed : List (Placed σ)) (path : String) : Entries Json :=
  (methodsAt placed path).filterMap fun method =>
    (winner placed path method).map fun p => (method.text, p.endpoint.operation tags p.security)

-- The paths in the order in which they first come.
def publishedPaths (tags : Path.Tagging) (placed : List (Placed σ)) : Entries Json :=
  (placed.map Placed.key).eraseDups.map fun path =>
    (path, .object (publishedItem tags placed path))

-- All operations that were ever put under a path.
def contributions (tags : Path.Tagging) (placed : List (Placed σ)) (path : String) :
    List (String × Json) :=
  (placed.filter fun p => p.key = path).map fun p =>
    (p.endpoint.method.text, p.endpoint.operation tags p.security)

theorem operations_append_singleton (tags : Path.Tagging) (placed : List (Placed σ))
    (p : Placed σ) :
    operations tags (placed ++ [p]) = addOperation tags (operations tags placed) p := by
  simp [operations]

theorem keys_operations (tags : Path.Tagging) (placed : List (Placed σ)) :
    (operations tags placed).keys = (placed.map Placed.key).eraseDups := by
  induction placed using List.reverseRecOn with
  | nil => rfl
  | append_singleton placed p ih =>
    rw [operations_append_singleton, addOperation, Entries.keys_insert, ih, List.map_append,
      List.map_singleton, eraseDups_append_singleton]
    simp only [List.mem_eraseDups]

-- The methods under a path are those of its own endpoints, one after the other.
theorem getD_get?_operations (tags : Path.Tagging) (placed : List (Placed σ)) (path : String) :
    ((operations tags placed).get? path).getD [] =
      Entries.ofList (contributions tags placed path) := by
  induction placed using List.reverseRecOn with
  | nil => rfl
  | append_singleton placed p ih =>
    rw [operations_append_singleton, addOperation, Entries.get?_insert]
    by_cases h : p.key = path
    · subst h
      have hc : contributions tags (placed ++ [p]) p.key = contributions tags placed p.key ++
          [(p.endpoint.method.text, p.endpoint.operation tags p.security)] := by
        simp [contributions]
      rw [hc, Entries.ofList_append_singleton, ← ih]
      simp
    · have hc : contributions tags (placed ++ [p]) path = contributions tags placed path := by
        simp [contributions, h]
      rw [if_neg h, hc, ih]

theorem get?_contributions (tags : Path.Tagging) (placed : List (Placed σ)) (path : String)
    (method : Method) :
    Entries.get? (contributions tags placed path).reverse method.text =
      (winner placed path method).map fun p => p.endpoint.operation tags p.security := by
  have hp : ∀ p : Placed σ,
      (decide (p.key = path) && decide (p.endpoint.method.text = method.text)) =
      decide (p.endpoint.Maps path method) := by
    intro p
    have ht := Method.text_injective.eq_iff (a := p.endpoint.method) (b := method)
    rw [← Bool.decide_and, decide_eq_decide, ht]
    rfl
  rw [contributions, ← List.map_reverse, Entries.get?_map, ← List.filter_reverse,
    List.find?_filter, winner_eq_find?_reverse]
  simp [hp]

theorem ofList_contributions (tags : Path.Tagging) (placed : List (Placed σ)) (path : String) :
    Entries.ofList (contributions tags placed path) = publishedItem tags placed path := by
  have hkeys : (Entries.ofList (contributions tags placed path)).keys =
      (methodsAt placed path).map Method.text := by
    rw [Entries.keys_ofList, methodsAt, map_eraseDups _ Method.text_injective]
    simp [contributions, Function.comp_def]
  have h := Entries.filterMap_keys (Entries.distinct_ofList (contributions tags placed path))
  rw [hkeys, List.filterMap_map] at h
  rw [← h, publishedItem]
  apply List.filterMap_congr
  intro method _
  simp [Entries.get?_ofList, get?_contributions, Function.comp_def]

theorem distinct_operations (tags : Path.Tagging) (placed : List (Placed σ)) :
    (operations tags placed).Distinct := by
  induction placed using List.reverseRecOn with
  | nil => exact List.nodup_nil
  | append_singleton placed p ih =>
    rw [operations_append_singleton]
    exact Entries.distinct_insert ih _ _

theorem get?_operations (tags : Path.Tagging) (placed : List (Placed σ)) (path : String) :
    (operations tags placed).get? path =
      if path ∈ placed.map Placed.key then some (publishedItem tags placed path) else none := by
  have hitem := getD_get?_operations tags placed path
  rw [ofList_contributions] at hitem
  have hnone := Entries.get?_eq_none_iff (operations tags placed) path
  rw [keys_operations, List.mem_eraseDups] at hnone
  cases h : (operations tags placed).get? path with
  | none => simp_all
  | some item =>
    have hm : path ∈ placed.map Placed.key := by
      by_contra hm
      rw [hnone.mpr hm] at h
      cases h
    rw [if_pos hm, ← hitem, h]
    rfl

theorem mapValues_operations (tags : Path.Tagging) (placed : List (Placed σ)) :
    Entries.mapValues .object (operations tags placed) = publishedPaths tags placed := by
  have hmap : publishedPaths tags placed = (placed.map Placed.key).eraseDups.filterMap fun path =>
      some (path, .object (publishedItem tags placed path)) := by
    rw [List.filterMap_eq_map', publishedPaths]
  rw [hmap, ← Entries.filterMap_keys (distinct_operations tags placed), keys_operations,
    Entries.mapValues, List.map_filterMap]
  apply List.filterMap_congr
  intro path hm
  rw [get?_operations, if_pos (List.mem_eraseDups.mp hm)]
  rfl

theorem get?_publishedPaths (tags : Path.Tagging) (placed : List (Placed σ)) (path : String) :
    Entries.get? (publishedPaths tags placed) path =
      if path ∈ placed.map Placed.key then some (.object (publishedItem tags placed path))
      else none := by
  rw [← mapValues_operations, Entries.get?_mapValues, get?_operations]
  split <;> rfl

theorem get?_publishedItem (tags : Path.Tagging) (placed : List (Placed σ)) (path : String)
    (method : Method) :
    Entries.get? (publishedItem tags placed path) method.text =
      (winner placed path method).map fun p => p.endpoint.operation tags p.security := by
  rw [← ofList_contributions, Entries.get?_ofList, get?_contributions]

-- An operation with the place of its path and its own place among the methods of the path.
def StandsAt (paths : Entries Json) (i j : Nat) (path method : String) (operation : Json) : Prop :=
  ∃ item, paths[i]? = some (path, .object item) ∧ item[j]? = some (method, operation)

theorem standsAt_published_iff (tags : Path.Tagging) (placed : List (Placed σ)) (i j : Nat)
    (path method : String) (operation : Json) :
    StandsAt (publishedPaths tags placed) i j path method operation ↔
      ∃ item, (operations tags placed)[i]? = some (path, item) ∧
        item[j]? = some (method, operation) := by
  simp only [StandsAt, ← mapValues_operations, Entries.mapValues, List.getElem?_map]
  constructor
  · rintro ⟨item, hi, hj⟩
    obtain ⟨entry, he, hv⟩ := Option.map_eq_some_iff.mp hi
    cases hv
    exact ⟨entry.2, he, hj⟩
  · rintro ⟨item, hi, hj⟩
    exact ⟨item, by rw [hi]; rfl, hj⟩

-- One more endpoint leaves the operations under other paths and methods where they are.
theorem standsAt_append_singleton {tags : Path.Tagging} {placed : List (Placed σ)} {i j : Nat}
    {path : String} {method : Method} {operation : Json} {p : Placed σ}
    (h : StandsAt (publishedPaths tags placed) i j path method.text operation)
    (hp : ¬p.endpoint.Maps path method) :
    StandsAt (publishedPaths tags (placed ++ [p])) i j path method.text operation := by
  rw [standsAt_published_iff] at h ⊢
  obtain ⟨item, hi, hj⟩ := h
  rw [operations_append_singleton, addOperation]
  have hd := distinct_operations tags placed
  by_cases hk : p.key = path
  · subst hk
    have hm : p.endpoint.method ≠ method := fun he => hp ⟨rfl, he⟩
    have ht : method.text ≠ p.endpoint.method.text := fun he =>
      hm (Method.text_injective he).symm
    have hitem : Entries.get? (operations tags placed) p.key = some item :=
      Entries.get?_of_mem hd (List.mem_of_getElem? hi)
    refine ⟨_, Entries.getElem?_insert_self hd hi _, ?_⟩
    rw [hitem]
    exact Entries.getElem?_insert_of_ne hj ht _
  · exact ⟨item, Entries.getElem?_insert_of_ne hi (Ne.symm hk) _, hj⟩

theorem standsAt_append {tags : Path.Tagging} {placed later : List (Placed σ)} {i j : Nat}
    {path : String} {method : Method} {operation : Json}
    (h : StandsAt (publishedPaths tags placed) i j path method.text operation)
    (hl : ∀ p ∈ later, ¬p.endpoint.Maps path method) :
    StandsAt (publishedPaths tags (placed ++ later)) i j path method.text operation := by
  induction later using List.reverseRecOn with
  | nil => simpa using h
  | append_singleton later p ih =>
    rw [← List.append_assoc]
    exact standsAt_append_singleton (ih fun q hq => hl q (by simp [hq])) (hl p (by simp))

theorem get?_paths_render (o : Outline σ) :
    o.render.get? "paths" = some (.object (publishedPaths o.tags o.placed)) := by
  simp [Outline.render, mapValues_operations]

-- What a document shows of its endpoints.
structure Publishes (tags : Path.Tagging) (placed : List (Placed σ)) (d : Document) : Prop where
  paths : d.value.get? "paths" = some (.object (publishedPaths tags placed))
  operation : ∀ path method, d.operation path method =
    (winner placed path method).map fun p => p.endpoint.operation tags p.security
  isSome_iff : ∀ path method,
    (d.operation path method).isSome = true ↔ ∃ p ∈ placed, p.endpoint.Maps path method
  -- Endpoints that come later neither remove nor move nor alter the operations of others.
  stays : ∀ earlier later, placed = earlier ++ later → ∀ i j path (method : Method) operation,
    StandsAt (publishedPaths tags earlier) i j path method.text operation →
    (∀ p ∈ later, ¬p.endpoint.Maps path method) →
    StandsAt (publishedPaths tags placed) i j path method.text operation

theorem operation_of_paths {d : Document} {tags : Path.Tagging} {placed : List (Placed σ)}
    (h : d.value.get? "paths" = some (.object (publishedPaths tags placed)))
    (path : String) (method : Method) :
    d.operation path method =
      (winner placed path method).map fun p => p.endpoint.operation tags p.security := by
  simp only [Document.operation, h, Option.bind_eq_bind, Option.bind_some, Json.get?_object,
    get?_publishedPaths]
  by_cases hm : path ∈ placed.map Placed.key
  · simp [hm, get?_publishedItem]
  · have hw : winner placed path method = none := by
      rw [winner_eq_none_iff]
      intro p hp hmaps
      exact hm (hmaps.1 ▸ List.mem_map_of_mem hp)
    simp [hm, hw]

theorem publishes_render (o : Outline σ) : Publishes o.tags o.placed ⟨o.render⟩ := by
  have hpaths := get?_paths_render o
  have hoperation := operation_of_paths (d := ⟨o.render⟩) hpaths
  refine ⟨hpaths, hoperation, ?_, ?_⟩
  · intro path method
    rw [hoperation, Option.isSome_map, Option.isSome_iff_ne_none, ne_eq, winner_eq_none_iff]
    simp
  · rintro earlier later hplaced i j path method operation h hl
    rw [hplaced]
    exact standsAt_append h hl

-- Every way to a document shows each path at the place where it first came, under it each method at
-- the place where that first came, and for both the operation of the last endpoint.
theorem paths_published :
    (∀ (info : Info) (calls : List (Call σ)),
      Text.isBlank info.title = false → Text.isBlank info.version = false →
      (∀ g ∈ calls.filterMap Call.group?, ∀ r, g.security = some r → Registers calls r.scheme) →
      (∀ r, (calls.filterMap Call.security?).getLast? = some r → Registers calls r.scheme) →
      ∃ d events, build info calls = .ok (d, events) ∧
        Publishes ((calls.filterMap Call.tagging?).getLast?.getD Path.defaultTags)
          (placedIn (calls.filterMap Call.group?)) d) ∧
    (∀ (endpoints : List (Endpoint σ)) (c : Conversion),
      Text.isBlank (c.info.getD .placeholder).title = false →
      Text.isBlank (c.info.getD .placeholder).version = false →
      ∃ d events, convert endpoints c = .ok (d, events) ∧
        Publishes (c.tags.getD Path.defaultTags)
          (endpoints.map fun e => ⟨e, c.scheme.map fun _ => { scheme := soleScheme }⟩) d) := by
  constructor
  · intro info calls htitle hversion hgroups hglobal
    have hv := Outline.valid_ofCalls htitle hversion hgroups hglobal
    have hp := publishes_render (Outline.ofCalls info calls)
    have hplaced : (Outline.ofCalls info calls).placed =
        placedIn (calls.filterMap Call.group?) := by
      rw [Outline.placed_eq, Outline.ofCalls_eq]
    have htags : (Outline.ofCalls info calls).tags =
        (calls.filterMap Call.tagging?).getLast?.getD Path.defaultTags := by
      rw [Outline.ofCalls_eq]
    rw [hplaced, htags] at hp
    exact ⟨_, _, Outline.assemble_of_valid hv, hp⟩
  · intro endpoints c htitle hversion
    have hv : (c.outline endpoints).Valid := Conversion.valid_outline endpoints htitle hversion
    have hp := publishes_render (c.outline endpoints)
    have hplaced : (c.outline endpoints).placed =
        endpoints.map fun e => ⟨e, c.scheme.map fun _ => { scheme := soleScheme }⟩ := by
      simp [Outline.placed_eq, Conversion.outline, placedIn]
    rw [hplaced] at hp
    exact ⟨_, _, Outline.assemble_of_valid hv, hp⟩

def usersInfo : Info := { title := "Users", version := "1.0.0" }

def listedUsers : List (Endpoint Schema) := [
  ⟨.get, "/users", "listUsers", none, [], .string, [], none⟩,
  ⟨.post, "/users", "createUser", none, [], .string, [], none⟩]

-- Without its query the path is that of the group before.
def pagedUsers : List (Endpoint Schema) :=
  [⟨.get, "/users?page=:page", "pageUsers", none, [], .string, [], none⟩]

def usersCalls (security : Option Requirement) : List (Call Schema) :=
  [.group ⟨listedUsers, none⟩] ++ .group ⟨pagedUsers, security⟩ ::
    [.scheme "auth" { mechanism := .bearer }]

def usersReader : Requirement := { scheme := "auth", grants := ["read"] }

theorem paths_published_users :
    Text.isBlank usersInfo.title = false ∧ Text.isBlank usersInfo.version = false ∧
    (winner (placedIn [⟨listedUsers, none⟩, ⟨pagedUsers, some usersReader⟩]) "/users" .get).map
      (fun p => (p.endpoint.operationId, p.security)) = some ("pageUsers", some usersReader) ∧
    ∃ d events, build usersInfo (usersCalls (some usersReader)) = .ok (d, events) ∧
      Publishes Path.defaultTags
        (placedIn [⟨listedUsers, none⟩, ⟨pagedUsers, some usersReader⟩]) d := by
  refine ⟨by decide, by decide, by decide +kernel,
    paths_published.1 usersInfo (usersCalls (some usersReader)) (by decide) (by decide) ?_ ?_⟩
  · simp [usersCalls, usersReader, Call.group?, Registers, Call.scheme?]
  · simp [usersCalls, Call.security?, List.filterMap_cons]

end ApiDescription
