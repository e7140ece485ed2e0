import ApiDescription.Document.Builder
import ApiDescription.Proofs.Json

namespace ApiDescription

variable {σ : Type}

namespace Call

def scheme? : Call σ → Option (String × SecurityScheme)
  | scheme name value => some (name, value)
  | _ => none

def group? : Call σ → Option (Group σ)
  | group value => some value
  | _ => none

def security? : Call σ → Option Requirement
  | security value => some value
  | _ => none

def server? : Call σ → Option Server
  | server value => some value
  | _ => none

def definition? : Call σ → Option (String × σ)
  | definition name schema => some (name, schema)
  | _ => none

def tagging? : Call σ → Option Path.Tagging
  | tags value => some value
  | _ => none

end Call

-- What the items that are left out do not say is said alike by lists that agree in all others.
theorem filterMap_eq_of_filter_eq {α β : Type} {keeps : α → Bool} {part : α → Option β}
    (hpart : ∀ item, keeps item = false → part item = none) {items items' : List α}
    (h : items.filter keeps = items'.filter keeps) :
    items.filterMap part = items'.filterMap part := by
  have hkept : ∀ list : List α, (list.filter keeps).filterMap part = list.filterMap part := by
    intro list
    rw [List.filterMap_filter]
    apply List.filterMap_congr
    intro item _
    cases hk : keeps item <;> simp [hpart, hk]
  rw [← hkept items, h, hkept items']

-- Whether one of some calls registers a scheme under a name.
def Registers (calls : List (Call σ)) (name : String) : Prop :=
  name ∈ (calls.filterMap Call.scheme?).map Prod.fst

-- The endpoints of some groups, each with the protection of its own group.
def placedIn (groups : List (Group σ)) : List (Placed σ) :=
  groups.flatMap fun group => group.endpoints.map fun e => ⟨e, group.security⟩

@[simp] theorem placedIn_append (groups more : List (Group σ)) :
    placedIn (groups ++ more) = placedIn groups ++ placedIn more := List.flatMap_append

@[simp] theorem placedIn_cons (group : Group σ) (rest : List (Group σ)) :
    placedIn (group :: rest) =
      group.endpoints.map (fun e => ⟨e, group.security⟩) ++ placedIn rest := rfl

theorem endpoints_placedIn (groups : List (Group σ)) :
    (placedIn groups).map Placed.endpoint = groups.flatMap Group.endpoints := by
  simp [placedIn, List.map_flatMap, Function.comp_def]

namespace Outline

theorem placed_eq (o : Outline σ) : o.placed = placedIn o.groups := rfl

-- Calls of one kind do not see those of the others.
theorem foldl_add (calls : List (Call σ)) (o : Outline σ) :
    calls.foldl add o = {
      info := o.info
      servers := o.servers ++ calls.filterMap Call.server?
      schemes := o.schemes.extend (calls.filterMap Call.scheme?)
      definitions := o.definitions.extend (calls.filterMap Call.definition?)
      security := (calls.filterMap Call.security?).getLast?.or o.security
      groups := o.groups ++ calls.filterMap Call.group?
      tags := (calls.filterMap Call.tagging?).getLast?.getD o.tags } := by
  induction calls generalizing o with
  | nil => simp [Entries.extend]
  | cons call rest ih =>
    rw [List.foldl_cons, ih]
    cases call <;>
      simp [add, Call.server?, Call.scheme?, Call.definition?, Call.security?, Call.group?,
        Call.tagging?, Entries.extend, List.filterMap_cons, List.getLast?_cons]

theorem ofCalls_eq (info : Info) (calls : List (Call σ)) :
    ofCalls info calls = {
      info
      servers := calls.filterMap Call.server?
      schemes := Entries.ofList (calls.filterMap Call.scheme?)
      definitions := Entries.ofList (calls.filterMap Call.definition?)
      security := (calls.filterMap Call.security?).getLast?
      groups := calls.filterMap Call.group?
      tags := (calls.filterMap Call.tagging?).getLast?.getD Path.defaultTags } := by
  rw [ofCalls, foldl_add]
  simp [Entries.ofList]

-- What an outline needs to become a document.
structure Valid (o : Outline σ) : Prop where
  title : Text.isBlank o.info.title = false
  version : Text.isBlank o.info.version = false
  schemes : ∀ r ∈ o.requirements, r.scheme ∈ o.schemes.keys

theorem requirements_ofCalls (info : Info) (calls : List (Call σ)) :
    (ofCalls info calls).requirements =
      (calls.filterMap Call.group?).filterMap Group.security ++
        (calls.filterMap Call.security?).getLast?.toList := by
  rw [ofCalls_eq]
  rfl

theorem valid_ofCalls {info : Info} {calls : List (Call σ)}
    (htitle : Text.isBlank info.title = false) (hversion : Text.isBlank info.version = false)
    (hgroups : ∀ g ∈ calls.filterMap Call.group?, ∀ r, g.security = some r →
      Registers calls r.scheme)
    (hglobal : ∀ r, (calls.filterMap Call.security?).getLast? = some r →
      Registers calls r.scheme) :
    (ofCalls info calls).Valid := by
  have hinfo : (ofCalls info calls).info = info := by rw [ofCalls_eq]
  have hkeys : ∀ name, Registers calls name → name ∈ (ofCalls info calls).schemes.keys := by
    intro name hr
    rw [ofCalls_eq, Entries.keys_ofList, List.mem_eraseDups]
    exact hr
  refine ⟨by rw [hinfo]; exact htitle, by rw [hinfo]; exact hversion, ?_⟩
  intro r hr
  apply hkeys
  rw [requirements_ofCalls, List.mem_append] at hr
  rcases hr with hr | hr
  · obtain ⟨g, hg, hs⟩ := List.mem_filterMap.mp hr
    exact hgroups g hg r hs
  · exact hglobal r (by simpa using hr)

theorem unknownScheme?_eq_none_iff (o : Outline σ) :
    o.unknownScheme? = none ↔ ∀ r ∈ o.requirements, r.scheme ∈ o.schemes.keys := by
  simp [unknownScheme?, Entries.contains_iff]

theorem fault?_eq_none_iff (o : Outline σ) : o.fault? = none ↔ o.Valid := by
  constructor
  · intro h
    unfold fault? at h
    split at h
    · cases h
    split at h
    · cases h
    rename_i ht hv
    have hs : o.unknownScheme? = none := by simpa using h
    exact ⟨by simpa using ht, by simpa using hv, (unknownScheme?_eq_none_iff o).mp hs⟩
  · intro h
    have hs := (unknownScheme?_eq_none_iff o).mpr h.schemes
    simp [fault?, h.title, h.version, hs]

end Outline

-- The one scheme that a conversion refers to is its own.
theorem Conversion.valid_outline {c : Conversion} (endpoints : List (Endpoint σ))
    (htitle : Text.isBlank (c.info.getD .placeholder).title = false)
    (hversion : Text.isBlank (c.info.getD .placeholder).version = false) :
    (c.outline endpoints).Valid := by
  refine ⟨htitle, hversion, ?_⟩
  intro r hr
  cases h : c.scheme with
  | none => simp [Outline.requirements, outline, h] at hr
  | some scheme =>
    have hs : r = { scheme := soleScheme } := by simpa [Outline.requirements, outline, h] using hr
    simp [hs, outline, h, Entries.keys]

namespace Outline

variable [SchemaView σ]

theorem get?_info_render (o : Outline σ) : o.render.get? "info" = some o.info.toJson := by
  simp [render]

theorem get?_servers_render (o : Outline σ) : o.render.get? "servers" =
    if o.servers = [] then none else some (.array (o.servers.map Server.toJson)) := by
  simp [render]

theorem get?_security_render (o : Outline σ) :
    o.render.get? "security" = o.security.map Requirement.toJson := by
  simp [render]

theorem get?_components_render (o : Outline σ) :
    o.render.get? "components" = o.components := by
  simp [render]

theorem components_eq_none_iff (o : Outline σ) :
    o.components = none ↔ o.schemes = [] ∧ o.definitions = [] := by
  rw [components]
  by_cases hschemes : o.schemes = [] <;> by_cases hdefinitions : o.definitions = [] <;>
    simp [hschemes, hdefinitions, Json.field]

theorem components_eq_some {o : Outline σ} {value : Json} (h : o.components = some value) :
    ∃ components : Entries Json, value = .object components ∧
      components.keys.Sublist ["securitySchemes", "schemas"] ∧
      components.get? "securitySchemes" = (if o.schemes = [] then none
        else some (.object (o.schemes.mapValues SecurityScheme.toJson))) ∧
      components.get? "schemas" = (if o.definitions = [] then none
        else some (.object (o.definitions.mapValues (SchemaView.toJsonSchema .openApi3)))) := by
  simp only [components, Option.ite_none_left_eq_some, Option.some.injEq,
    List.isEmpty_iff] at h
  obtain ⟨-, rfl⟩ := h
  refine ⟨_, rfl, ?_, ?_, ?_⟩
  · refine Json.keys_filterMap_ite ?_ _ _ _
    exact Json.keys_filterMap_ite Json.keys_filterMap_nil _ _ _
  · rw [← Json.get?_object]
    change (Json.present _).get? _ = _
    rw [Json.get?_present_ite]
    by_cases hschemes : o.schemes = []
    · rw [if_pos hschemes, if_pos hschemes, Json.get?_present_ite, Json.get?_present_field]
      exact ite_self _
    · rw [if_neg hschemes, if_neg hschemes, Json.get?_present_field, if_pos rfl]
  · rw [← Json.get?_object]
    change (Json.present _).get? _ = _
    rw [Json.get?_present_ite, Json.get?_present_field,
      if_neg (show "securitySchemes" ≠ "schemas" by decide), ite_self, Json.get?_present_ite,
      Json.get?_present_field, if_pos rfl]
    rfl

theorem assemble_of_valid {o : Outline σ} (h : o.Valid) :
    o.assemble = .ok (⟨o.render⟩, eventsAfter [] o.placed) := by
  rw [assemble, (fault?_eq_none_iff o).mpr h]

theorem assemble_eq_ok_iff (o : Outline σ) (d : Document) (events : List Event) :
    o.assemble = .ok (d, events) ↔ o.Valid ∧ d = ⟨o.render⟩ ∧ events = eventsAfter [] o.placed := by
  constructor
  · intro h
    have hv : o.Valid := by
      rw [← fault?_eq_none_iff]
      unfold assemble at h
      split at h
      · cases h
      · assumption
    rw [assemble_of_valid hv] at h
    cases h
    exact ⟨hv, rfl, rfl⟩
  · rintro ⟨hv, rfl, rfl⟩
    exact assemble_of_valid hv

theorem assemble_eq_error_iff (o : Outline σ) (error : OutlineError) :
    o.assemble = .error error ↔ o.fault? = some error := by
  rw [assemble]
  cases o.fault? <;> simp

end Outline

end ApiDescription
