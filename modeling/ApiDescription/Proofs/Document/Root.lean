import ApiDescription.Proofs.Document.Embedded
import ApiDescription.Proofs.Document.Isolation

namespace ApiDescription

-- Whether an object has one entry for each name in some registrations, in the order in which the
-- names first came, and under each name what was registered last.
def Json.Tabulates {α : Type} (registered : List (String × α)) (render : α → Json)
    (table : Json) : Prop :=
  ∃ entries : Entries Json, table = .object entries ∧
    entries.keys = (registered.map Prod.fst).eraseDups ∧
    ∀ name, entries.get? name = (Entries.get? registered.reverse name).map render

theorem Json.tabulates_ofList {α : Type} (registered : List (String × α)) (render : α → Json) :
    Tabulates registered render (.object ((Entries.ofList registered).mapValues render)) := by
  refine ⟨_, rfl, ?_, fun name => ?_⟩
  · rw [Entries.keys_mapValues, Entries.keys_ofList]
  · rw [Entries.get?_mapValues, Entries.get?_ofList]

-- An object that has such a table unless nothing is registered.
theorem Json.tabulates_of_get? {α : Type} {entries : Entries Json} {key : String}
    {registered : List (String × α)} {render : α → Json}
    (h : entries.get? key = if Entries.ofList registered = [] then none
      else some (.object ((Entries.ofList registered).mapValues render))) :
    (key ∈ entries.keys ↔ ¬registered = []) ∧
      ∀ table, entries.get? key = some table → table.Tabulates registered render := by
  refine ⟨?_, fun table htable => ?_⟩
  · rw [Entries.mem_keys_iff_of_get? h, Entries.ofList_eq_nil_iff]
  · rw [htable, eq_comm, Option.ite_none_left_eq_some] at h
    obtain rfl := Option.some.inj h.2
    exact tabulates_ofList registered render

variable {σ : Type}

-- Some calls say nothing of a kind just if none of them is of that kind.
theorem filterMap_eq_nil_iff_notMem {β : Type} (part : Call σ → Option β) (call : β → Call σ)
    (hpart : ∀ other value, part other = some value ↔ other = call value)
    (calls : List (Call σ)) : calls.filterMap part = [] ↔ ¬∃ value, call value ∈ calls := by
  rw [List.filterMap_eq_nil_iff]
  constructor
  · rintro h ⟨value, hm⟩
    have hsome := (hpart _ value).mpr rfl
    rw [h _ hm] at hsome
    cases hsome
  · intro h other hm
    cases hs : part other with
    | none => rfl
    | some value => exact absurd ⟨value, (hpart other value).mp hs ▸ hm⟩ h

theorem scheme?_eq_nil_iff (calls : List (Call σ)) :
    calls.filterMap Call.scheme? = [] ↔ ¬∃ name scheme, Call.scheme name scheme ∈ calls := by
  rw [filterMap_eq_nil_iff_notMem _ (fun entry => Call.scheme entry.1 entry.2) ?_ calls,
    Prod.exists]
  intro other entry
  cases other <;> simp [Call.scheme?, Prod.ext_iff]

theorem definition?_eq_nil_iff (calls : List (Call σ)) :
    calls.filterMap Call.definition? = [] ↔
      ¬∃ name schema, Call.definition name schema ∈ calls := by
  rw [filterMap_eq_nil_iff_notMem _ (fun entry => Call.definition entry.1 entry.2) ?_ calls,
    Prod.exists]
  intro other entry
  cases other <;> simp [Call.definition?, Prod.ext_iff]

theorem server?_eq_nil_iff (calls : List (Call σ)) :
    calls.filterMap Call.server? = [] ↔ ¬∃ server, Call.server server ∈ calls := by
  refine filterMap_eq_nil_iff_notMem _ _ (fun other value => ?_) calls
  cases other <;> simp [Call.server?]

theorem security?_eq_nil_iff (calls : List (Call σ)) :
    calls.filterMap Call.security? = [] ↔ ¬∃ r, Call.security r ∈ calls := by
  refine filterMap_eq_nil_iff_notMem _ _ (fun other value => ?_) calls
  cases other <;> simp [Call.security?]

variable [SchemaView σ]

-- What a document shows of the schemes and the definitions of some calls.
structure ComponentsOf (calls : List (Call σ)) (components : Entries Json) : Prop where
  keys : components.keys.Sublist ["securitySchemes", "schemas"]
  schemes_iff : "securitySchemes" ∈ components.keys ↔
    ∃ name scheme, Call.scheme name scheme ∈ calls
  schemes : ∀ table, components.get? "securitySchemes" = some table →
    table.Tabulates (calls.filterMap Call.scheme?) SecurityScheme.toJson
  schemas_iff : "schemas" ∈ components.keys ↔ ∃ name schema, Call.definition name schema ∈ calls
  schemas : ∀ table, components.get? "schemas" = some table →
    table.Tabulates (calls.filterMap Call.definition?) (SchemaView.toJsonSchema .openApi3)

-- What a document shows of some calls, its paths apart.
structure RootOf (info : Info) (calls : List (Call σ)) (root : Entries Json) : Prop where
  keys : root.keys.Sublist ["openapi", "info", "servers", "security", "components", "paths"]
  openapi : root.get? "openapi" = some (.string "3.0.0")
  info : root.get? "info" = some info.toJson
  paths : "paths" ∈ root.keys
  servers_iff : "servers" ∈ root.keys ↔ ∃ server, Call.server server ∈ calls
  servers : ∀ value, root.get? "servers" = some value →
    value = .array ((calls.filterMap Call.server?).map Server.toJson)
  security_iff : "security" ∈ root.keys ↔ ∃ r, Call.security r ∈ calls
  security : ∀ value, root.get? "security" = some value →
    ∃ r, (calls.filterMap Call.security?).getLast? = some r ∧ value = r.toJson
  components_iff : "components" ∈ root.keys ↔
    (∃ name scheme, Call.scheme name scheme ∈ calls) ∨
      ∃ name schema, Call.definition name schema ∈ calls
  components : ∀ value, root.get? "components" = some value →
    ∃ components, value = .object components ∧ ComponentsOf calls components

theorem componentsOf_ofCalls {info : Info} {calls : List (Call σ)} {value : Json}
    (h : (Outline.ofCalls info calls).components = some value) :
    ∃ components, value = .object components ∧ ComponentsOf calls components := by
  obtain ⟨components, rfl, hkeys, hschemes, hschemas⟩ := Outline.components_eq_some h
  rw [Outline.ofCalls_eq] at hschemes hschemas
  obtain ⟨hscheme, hlisted⟩ := Json.tabulates_of_get? hschemes
  obtain ⟨hdefinition, hdefined⟩ := Json.tabulates_of_get? hschemas
  rw [scheme?_eq_nil_iff, Classical.not_not] at hscheme
  rw [definition?_eq_nil_iff, Classical.not_not] at hdefinition
  exact ⟨components, rfl, hkeys, hscheme, hlisted, hdefinition, hdefined⟩

theorem keys_render (o : Outline σ) :
    ∃ root : Entries Json, o.render = .object root ∧
      root.keys.Sublist ["openapi", "info", "servers", "security", "components", "paths"] ∧
      "paths" ∈ root.keys := by
  refine ⟨_, o.render_eq, ?_, ?_⟩
  · rw [Entries.keys, List.map_append]
    exact o.keys_front.append (List.Sublist.refl ["paths"])
  · simp [Entries.keys]

theorem components_ofCalls_eq_none_iff (info : Info) (calls : List (Call σ)) :
    (Outline.ofCalls info calls).components = none ↔
      ¬((∃ name scheme, Call.scheme name scheme ∈ calls) ∨
        ∃ name schema, Call.definition name schema ∈ calls) := by
  rw [Outline.components_eq_none_iff, Outline.ofCalls_eq, Entries.ofList_eq_nil_iff,
    Entries.ofList_eq_nil_iff, scheme?_eq_nil_iff, definition?_eq_nil_iff, not_or]

theorem rootOf_render (info : Info) (calls : List (Call σ)) :
    ∃ root, (Outline.ofCalls info calls).render = .object root ∧ RootOf info calls root := by
  obtain ⟨root, hroot, hkeys, hpaths⟩ := keys_render (Outline.ofCalls info calls)
  have hget : ∀ key, root.get? key = (Outline.ofCalls info calls).render.get? key := by
    intro key
    rw [hroot, Json.get?_object]
  have hservers := (hget "servers").trans (Outline.get?_servers_render _)
  have hsecurity := (hget "security").trans (Outline.get?_security_render _)
  have hcomponents := (hget "components").trans (Outline.get?_components_render _)
  have hinfo := (hget "info").trans (Outline.get?_info_render _)
  rw [Outline.ofCalls_eq] at hservers hsecurity hinfo
  refine ⟨root, hroot, hkeys, ?_, hinfo, hpaths, ?_, ?_, ?_, ?_, ?_, ?_⟩
  · rw [hget]
    rfl
  · rw [Entries.mem_keys_iff_of_get? hservers, server?_eq_nil_iff, Classical.not_not]
  · intro value h
    rw [h, eq_comm, Option.ite_none_left_eq_some] at hservers
    exact (Option.some.inj hservers.2).symm
  · rw [← Entries.contains_iff, Entries.contains, hsecurity, Option.isSome_map,
      Option.isSome_iff_ne_none, ne_eq, List.getLast?_eq_none_iff, security?_eq_nil_iff,
      Classical.not_not]
  · intro value h
    rw [h, eq_comm, Option.map_eq_some_iff] at hsecurity
    obtain ⟨r, hr, rfl⟩ := hsecurity
    exact ⟨r, hr, rfl⟩
  · rw [← Entries.contains_iff, Entries.contains, hcomponents, Option.isSome_iff_ne_none, ne_eq,
      components_ofCalls_eq_none_iff, Classical.not_not]
  · intro value h
    exact componentsOf_ofCalls (hcomponents.symm.trans h)

-- Besides its paths a document shows what was called for, and nothing else: all servers, and for
-- each name of a scheme or a definition the last call, in the order of the first calls.
theorem root_described (info : Info) (calls : List (Call σ)) (d : Document) (events : List Event)
    (h : build info calls = .ok (d, events)) :
    ∃ root, d.value = .object root ∧ RootOf info calls root := by
  obtain ⟨_, rfl, _⟩ := (Outline.assemble_eq_ok_iff ..).mp h
  exact rootOf_render info calls

-- Two names come again with something else, and so does the requirement.
def replacingCalls : List (Call Schema) := [
  .definition "User" .string,
  .scheme "key" { mechanism := .bearer },
  .security { scheme := "auth" },
  .server { url := "/api" },
  .scheme "auth" { mechanism := .basic },
  .definition "Flag" .boolean,
  .security { scheme := "key", grants := ["read"] },
  .scheme "key" { mechanism := .apiKey "X-Key" .header },
  .definition "User" .boolean,
  .server { url := "https://users.test" }]

theorem root_described_replacing :
    (∃ d events, build usersInfo replacingCalls = .ok (d, events) ∧
      (∃ root, d.value = .object root ∧ RootOf usersInfo replacingCalls root) ∧
      d.value.entries.keys =
        ["openapi", "info", "servers", "security", "components", "paths"] ∧
      d.value.get? "servers" = some (.array [
        .object [("url", .string "/api")], .object [("url", .string "https://users.test")]]) ∧
      d.value.get? "security" = some (.array [.object [("key", .array [.string "read"])]]) ∧
      d.value.get? "components" = some (.object [
        ("securitySchemes", .object [
          ("key", .object [
            ("type", .string "apiKey"), ("name", .string "X-Key"), ("in", .string "header")]),
          ("auth", .object [("type", .string "http"), ("scheme", .string "basic")])]),
        ("schemas", .object [
          ("User", .object [("type", .string "boolean")]),
          ("Flag", .object [("type", .string "boolean")])])])) ∧
    ∃ d events, build usersInfo ([] : List (Call Schema)) = .ok (d, events) ∧
      (∃ root, d.value = .object root ∧ RootOf usersInfo ([] : List (Call Schema)) root) ∧
      d.value.entries.keys = ["openapi", "info", "paths"] := by
  have hbuild : build usersInfo replacingCalls = .ok _ :=
    Outline.assemble_of_valid ((Outline.fault?_eq_none_iff _).mp (by decide))
  have hbare : build usersInfo ([] : List (Call Schema)) = .ok _ :=
    Outline.assemble_of_valid ((Outline.fault?_eq_none_iff _).mp (by decide))
  refine ⟨⟨_, _, hbuild, root_described usersInfo replacingCalls _ _ hbuild, ?_, ?_, ?_, ?_⟩,
    ⟨_, _, hbare, root_described usersInfo [] _ _ hbare, ?_⟩⟩
  all_goals with_unfolding_all rfl

end ApiDescription
