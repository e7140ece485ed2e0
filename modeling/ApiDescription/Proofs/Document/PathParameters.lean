import ApiDescription.Proofs.Document.Embedded
import ApiDescription.Proofs.Path.Pieces
import Mathlib.Data.List.Nodup
import Mathlib.Data.Option.Basic

namespace ApiDescription

namespace Json

def textAt (value : Json) (key : String) : Option String :=
  match value.get? key with
  | some (string text) => some text
  | _ => none

-- The entries of an operation for parameters of its path.
def pathParameters (operation : Json) : List Json :=
  (operation.under "parameters").flatMap fun parameters =>
    parameters.elements.filter fun entry => entry.textAt "in" = some "path"

-- Whether the path parameters of an operation are all required, have names of their own, and are
-- those that the key of the operation has in braces.
structure ConsistentAt (key : String) (operation : Json) : Prop where
  distinct : (operation.pathParameters.map fun entry => entry.textAt "name").Nodup
  names : ∀ name, some name ∈ operation.pathParameters.map (fun entry => entry.textAt "name") ↔
    name ∈ Path.tokens key
  required : ∀ entry ∈ operation.pathParameters, entry.get? "required" = some (.bool true)

end Json

-- What an operation says of the placeholders of a path, and the key under which it is kept.
structure DeclaresPlaceholders (path key : String) (operation : Json) : Prop where
  entries : (operation.pathParameters.map fun entry =>
      (entry.textAt "name", entry.get? "required")) =
    (Path.analyze path).placeholders.map fun name => (some name, some (.bool true))
  tokens : Path.tokens key = (Path.analyze (Path.route path)).placeholders
  placeholders : (Path.analyze path).placeholders =
    (Path.analyze (Path.route path)).placeholders ++
      (Path.analyze (Path.suffix path)).placeholders
  consistent_iff : operation.ConsistentAt key ↔
    (Path.analyze path).placeholders.Nodup ∧ (Path.analyze (Path.suffix path)).placeholders = []

variable {σ : Type} [SchemaView σ]

theorem textAt_parameterEntry (name location : String) (text : Option String) (required : Bool)
    (schema : Json) :
    (parameterEntry name location text required schema).textAt "name" = some name ∧
    (parameterEntry name location text required schema).textAt "in" = some location ∧
    (parameterEntry name location text required schema).get? "required" =
      some (.bool required) := by
  simp [parameterEntry, Json.textAt]

namespace Endpoint

theorem textAt_placeholderEntry (e : Endpoint σ) (name : String) :
    (e.placeholderEntry name).textAt "name" = some name ∧
    (e.placeholderEntry name).textAt "in" = some "path" ∧
    (e.placeholderEntry name).get? "required" = some (.bool true) := by
  rw [placeholderEntry]
  split
  · exact textAt_parameterEntry ..
  · exact textAt_parameterEntry ..

theorem textAt_in_declaredEntry {p : Parameter σ} {entry : Json}
    (h : declaredEntry p = some entry) : entry.textAt "in" ≠ some "path" := by
  unfold declaredEntry at h
  split at h
  · rename_i hcarrier
    cases h
    rw [(textAt_parameterEntry ..).2.1, hcarrier]
    simp [Carrier.location]
  · rename_i hcarrier
    cases h
    rw [(textAt_parameterEntry ..).2.1, hcarrier]
    simp [Carrier.location]
  · cases h

-- Only placeholders are in the path, whatever else is declared.
theorem pathParameters_operation (tags : Path.Tagging) (e : Endpoint σ)
    (security : Option Requirement) :
    (e.operation tags security).pathParameters =
      (Path.analyze e.path).placeholders.map e.placeholderEntry := by
  have hparameters : (e.operation tags security).get? "parameters" =
      some (.array (e.parameterEntries (Path.analyze e.path))) := by simp [operation]
  have hown : ((Path.analyze e.path).placeholders.map e.placeholderEntry).filter
      (fun entry => entry.textAt "in" = some "path") =
      (Path.analyze e.path).placeholders.map e.placeholderEntry := by
    rw [List.filter_eq_self]
    intro entry hm
    obtain ⟨name, _, rfl⟩ := List.mem_map.mp hm
    exact decide_eq_true (e.textAt_placeholderEntry name).2.1
  have hothers : (e.parameters.filterMap declaredEntry).filter
      (fun entry => entry.textAt "in" = some "path") = [] := by
    rw [List.filter_eq_nil_iff]
    intro entry hm
    obtain ⟨p, _, hp⟩ := List.mem_filterMap.mp hm
    simpa using textAt_in_declaredEntry hp
  rw [Json.pathParameters, Json.under_of_get? hparameters, List.flatMap_singleton]
  change (e.parameterEntries (Path.analyze e.path)).filter _ = _
  rw [parameterEntries, List.filter_append, hown, hothers, List.append_nil]

theorem names_pathParameters (tags : Path.Tagging) (e : Endpoint σ)
    (security : Option Requirement) :
    (e.operation tags security).pathParameters.map (fun entry => entry.textAt "name") =
      (Path.analyze e.path).placeholders.map some := by
  rw [pathParameters_operation, List.map_map]
  exact List.map_congr_left fun name _ => (e.textAt_placeholderEntry name).1

theorem required_pathParameters (tags : Path.Tagging) (e : Endpoint σ)
    (security : Option Requirement) :
    ∀ entry ∈ (e.operation tags security).pathParameters,
      entry.get? "required" = some (.bool true) := by
  rw [pathParameters_operation]
  intro entry hm
  obtain ⟨name, _, rfl⟩ := List.mem_map.mp hm
  exact (e.textAt_placeholderEntry name).2.2

theorem consistentAt_iff (tags : Path.Tagging) {e : Endpoint σ} (security : Option Requirement)
    (h : '\x7b' ∉ e.path.toList) :
    (e.operation tags security).ConsistentAt (Path.analyze e.path).templated ↔
      (Path.analyze e.path).placeholders.Nodup ∧
        (Path.analyze (Path.suffix e.path)).placeholders = [] := by
  have hsplit := Path.placeholders_route_suffix e.path
  have hnames := e.names_pathParameters tags security
  have hmem : ∀ name, some name ∈ (Path.analyze e.path).placeholders.map some ↔
      name ∈ (Path.analyze e.path).placeholders := by simp
  constructor
  · rintro ⟨hdistinct, htokens, _⟩
    have hnodup := hdistinct
    rw [hnames, List.nodup_map_iff (Option.some_injective _)] at hnodup
    refine ⟨hnodup, List.eq_nil_iff_forall_not_mem.mpr fun name hm => ?_⟩
    -- A placeholder of the query would have to be one of the route as well.
    have hroute := (htokens name).mp (by
      rw [hnames, hmem, hsplit]
      exact List.mem_append_right _ hm)
    rw [Path.tokens_templated h] at hroute
    rw [hsplit] at hnodup
    exact (List.nodup_append.mp hnodup).2.2 name hroute name hm rfl
  · rintro ⟨hnodup, hsuffix⟩
    rw [hsuffix, List.append_nil] at hsplit
    refine ⟨?_, fun name => ?_, e.required_pathParameters tags security⟩
    · rw [hnames, List.nodup_map_iff (Option.some_injective _)]
      exact hnodup
    · rw [hnames, hmem, Path.tokens_templated h, hsplit]

theorem declaresPlaceholders (tags : Path.Tagging) {e : Endpoint σ}
    (security : Option Requirement) (h : '\x7b' ∉ e.path.toList) :
    DeclaresPlaceholders e.path (Path.analyze e.path).templated (e.operation tags security) where
  entries := by
    rw [pathParameters_operation, List.map_map]
    apply List.map_congr_left
    intro name _
    obtain ⟨hname, _, hrequired⟩ := e.textAt_placeholderEntry name
    exact Prod.ext hname hrequired
  tokens := Path.tokens_templated h
  placeholders := Path.placeholders_route_suffix e.path
  consistent_iff := consistentAt_iff tags security h

end Endpoint

def repeatedPlaceholder : Endpoint Schema :=
  ⟨.get, "/users/:id/friends/:id", "getFriend", none, [⟨"id", .path, none, .string⟩], .string, [],
    none⟩

def queriedPlaceholder : Endpoint Schema :=
  ⟨.get, "/users?name=:name", "findUser", none, [⟨"name", .path, none, .string⟩], .string, [],
    none⟩

-- A name that comes twice is not one of its own, and a name of the query is not in the key.
theorem path_parameters_inconsistent :
    (∀ e ∈ [repeatedPlaceholder, queriedPlaceholder],
      '\x7b' ∉ e.path.toList ∧ '\x7d' ∉ e.path.toList) ∧
    ¬(repeatedPlaceholder.operation Path.defaultTags none).ConsistentAt
      (Path.analyze repeatedPlaceholder.path).templated ∧
    ¬(queriedPlaceholder.operation Path.defaultTags none).ConsistentAt
      (Path.analyze queriedPlaceholder.path).templated := by
  have hrepeated : ¬(Path.analyze repeatedPlaceholder.path).placeholders.Nodup := by
    decide +kernel
  have hqueried : (Path.analyze (Path.suffix queriedPlaceholder.path)).placeholders ≠ [] := by
    decide +kernel
  refine ⟨by decide +kernel, fun h => ?_, fun h => ?_⟩
  · exact hrepeated ((Endpoint.consistentAt_iff _ _ (by decide +kernel)).mp h).1
  · exact hqueried ((Endpoint.consistentAt_iff _ _ (by decide +kernel)).mp h).2

-- The operation of an endpoint declares each placeholder of the path as often as it is there, those
-- of the query and the fragment included, while its key has only those of the route. Both agree
-- just if no placeholder is repeated and none is in the query or the fragment.
theorem path_parameters_declared :
    (∀ (tags : Path.Tagging) (e : Endpoint σ) (security : Option Requirement),
      '\x7b' ∉ e.path.toList →
      DeclaresPlaceholders e.path (Path.analyze e.path).templated (e.operation tags security)) ∧
    ∀ (o : Outline σ) (d : Document) (events : List Event) (path : String) (method : Method)
      (p : Placed σ), o.assemble = .ok (d, events) → winner o.placed path method = some p →
      '\x7b' ∉ p.endpoint.path.toList →
      ∃ operation, d.operation path method = some operation ∧
        DeclaresPlaceholders p.endpoint.path path operation := by
  refine ⟨fun tags e security h => Endpoint.declaresPlaceholders tags security h, ?_⟩
  intro o d events path method p hassemble hwinner hpath
  obtain ⟨_, rfl, _⟩ := (Outline.assemble_eq_ok_iff ..).mp hassemble
  refine ⟨p.endpoint.operation o.tags p.security, ?_, ?_⟩
  · rw [(publishes_render o).operation, hwinner]
    rfl
  · rw [← (maps_of_winner hwinner).1]
    exact Endpoint.declaresPlaceholders o.tags p.security hpath

def friendsOutline : Outline Schema where
  info := usersInfo
  groups := [⟨[queriedPlaceholder, repeatedPlaceholder], none⟩]

def distinctPlaceholders : Endpoint Schema :=
  ⟨.get, "/orgs/:org/users/:user?page=1", "getMember", none, [], .string, [], none⟩

theorem path_parameters_declared_friends :
    '\x7b' ∉ repeatedPlaceholder.path.toList ∧ '\x7b' ∉ queriedPlaceholder.path.toList ∧
    DeclaresPlaceholders queriedPlaceholder.path (Path.analyze queriedPlaceholder.path).templated
      (queriedPlaceholder.operation Path.defaultTags none) ∧
    (∃ d events, friendsOutline.assemble = .ok (d, events) ∧
      winner friendsOutline.placed "/users/\x7bid\x7d/friends/\x7bid\x7d" .get =
        some ⟨repeatedPlaceholder, none⟩ ∧
      ∃ operation, d.operation "/users/\x7bid\x7d/friends/\x7bid\x7d" .get = some operation ∧
        DeclaresPlaceholders repeatedPlaceholder.path "/users/\x7bid\x7d/friends/\x7bid\x7d"
          operation) ∧
    (distinctPlaceholders.operation Path.defaultTags none).ConsistentAt
      (Path.analyze distinctPlaceholders.path).templated := by
  have hrepeated : '\x7b' ∉ repeatedPlaceholder.path.toList := by decide +kernel
  have hqueried : '\x7b' ∉ queriedPlaceholder.path.toList := by decide +kernel
  have hassemble : friendsOutline.assemble = .ok (⟨friendsOutline.render⟩, _) :=
    Outline.assemble_of_valid ((Outline.fault?_eq_none_iff _).mp (by decide))
  have hwinner : winner friendsOutline.placed "/users/\x7bid\x7d/friends/\x7bid\x7d" .get =
      some ⟨repeatedPlaceholder, none⟩ := by
    rw [winner_eq_find?_reverse]
    exact List.find?_cons_of_pos (by decide +kernel)
  have hdistinct := path_parameters_declared.1 Path.defaultTags distinctPlaceholders none
    (by decide +kernel)
  exact ⟨hrepeated, hqueried, path_parameters_declared.1 _ _ _ hqueried,
    ⟨_, _, hassemble, hwinner,
      path_parameters_declared.2 _ _ _ _ _ _ hassemble hwinner hrepeated⟩,
    hdistinct.consistent_iff.mpr ⟨by decide +kernel, by decide +kernel⟩⟩

end ApiDescription
