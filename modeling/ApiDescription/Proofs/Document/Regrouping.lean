import ApiDescription.Proofs.Document.Calls
import Mathlib.Logic.Relation

namespace ApiDescription

variable {σ : Type}

-- One change in how the endpoints of a run are cut into groups: a group falls into two with the
-- same protection, which need not be called for at once, or a public group without endpoints is
-- added.
inductive Recut : List (Call σ) → List (Call σ) → Prop where
  | split (before between after : List (Call σ)) (endpoints more : List (Endpoint σ))
    (security : Option Requirement) (hbetween : ∀ call ∈ between, call.group? = none) :
    Recut (before ++ .group ⟨endpoints ++ more, security⟩ :: (between ++ after))
      (before ++ .group ⟨endpoints, security⟩ :: (between ++ .group ⟨more, security⟩ :: after))
  | empty (before after : List (Call σ)) :
    Recut (before ++ after) (before ++ .group ⟨[], none⟩ :: after)

-- Whether two runs differ only in their groups, have the same endpoints under the same protections
-- one after the other, and miss the same scheme first.
structure SameFlow (missed : Requirement → Bool) (calls calls' : List (Call σ)) : Prop where
  others : calls.filter (fun call => call.group?.isNone) =
    calls'.filter fun call => call.group?.isNone
  placed : placedIn (calls.filterMap Call.group?) = placedIn (calls'.filterMap Call.group?)
  unmet : ((calls.filterMap Call.group?).filterMap Group.security).find? missed =
    ((calls'.filterMap Call.group?).filterMap Group.security).find? missed

-- Whatever schemes are there, a second group with the same protection misses none before the first.
theorem sameFlow_of_recut {calls calls' : List (Call σ)} (h : Recut calls calls')
    (missed : Requirement → Bool) : SameFlow missed calls calls' := by
  cases h with
  | split before between after endpoints more security hbetween =>
    have hnone : between.filterMap Call.group? = [] := List.filterMap_eq_nil_iff.mpr hbetween
    refine ⟨?_, ?_, ?_⟩
    · simp [Call.group?]
    · simp [hnone, Call.group?]
    · cases security with
      | none => simp [hnone, Call.group?]
      | some r => cases hr : missed r <;> simp [hnone, hr, Call.group?, List.find?_append]
  | empty before after => refine ⟨?_, ?_, ?_⟩ <;> simp [Call.group?]

-- The protections of the endpoints miss a scheme first where those of the groups do, unless a group
-- without endpoints misses one.
theorem find?_security_placedIn {groups : List (Group σ)} {missed : Requirement → Bool}
    (h : ∀ g ∈ groups, g.endpoints = [] → ¬g.security.any missed = true) :
    ((placedIn groups).filterMap Placed.security).find? missed =
      (groups.filterMap Group.security).find? missed := by
  induction groups with
  | nil => rfl
  | cons g rest ih =>
    have hrest := ih fun other hm => h other (List.mem_cons_of_mem _ hm)
    have hown : (g.endpoints.map fun e => Placed.mk e g.security).filterMap Placed.security =
        g.endpoints.filterMap fun _ => g.security := List.filterMap_map
    rw [placedIn_cons, List.filterMap_append, List.find?_append, hrest, hown]
    cases hs : g.security with
    | none => simp [hs]
    | some r =>
      cases hr : missed r with
      | false => simp [hs, hr, List.filterMap_eq_map']
      | true =>
        have hne : g.endpoints ≠ [] := fun he => h g List.mem_cons_self he (by simp [hs, hr])
        obtain ⟨e, others, he⟩ := List.exists_cons_of_ne_nil hne
        simp [hs, hr, he]

theorem sameFlow_of_placed {missed : Requirement → Bool} {calls calls' : List (Call σ)}
    (hothers : calls.filter (fun call => call.group?.isNone) =
      calls'.filter fun call => call.group?.isNone)
    (hplaced : placedIn (calls.filterMap Call.group?) = placedIn (calls'.filterMap Call.group?))
    (hempty : ∀ g ∈ calls.filterMap Call.group?,
      g.endpoints = [] → ¬g.security.any missed = true)
    (hempty' : ∀ g ∈ calls'.filterMap Call.group?,
      g.endpoints = [] → ¬g.security.any missed = true) :
    SameFlow missed calls calls' := by
  refine ⟨hothers, hplaced, ?_⟩
  rw [← find?_security_placedIn hempty, ← find?_security_placedIn hempty', hplaced]

namespace Outline

theorem ofCalls_groups (info : Info) {calls calls' : List (Call σ)}
    (h : calls.filter (fun call => call.group?.isNone) =
      calls'.filter fun call => call.group?.isNone) :
    ofCalls info calls' = { ofCalls info calls with groups := calls'.filterMap Call.group? } := by
  have hkind : ∀ {β : Type} (part : Call σ → Option β),
      (∀ g, part (.group g) = none) → calls.filterMap part = calls'.filterMap part := by
    intro β part hpart
    refine filterMap_eq_of_filter_eq (fun call hk => ?_) h
    cases call <;> simp_all [Call.group?]
  rw [ofCalls_eq, ofCalls_eq, hkind Call.server? (fun _ => rfl), hkind Call.scheme? (fun _ => rfl),
    hkind Call.definition? (fun _ => rfl), hkind Call.security? (fun _ => rfl),
    hkind Call.tagging? (fun _ => rfl)]

variable [SchemaView σ]

theorem assemble_groups {o : Outline σ} {groups : List (Group σ)}
    (hplaced : placedIn groups = placedIn o.groups)
    (hunmet : (groups.filterMap Group.security).find? o.lacks =
      (o.groups.filterMap Group.security).find? o.lacks) :
    ({ o with groups } : Outline σ).assemble = o.assemble := by
  have hunknown : ({ o with groups } : Outline σ).unknownScheme? = o.unknownScheme? := by
    have hfind : (groups.filterMap Group.security ++ o.security.toList).find? o.lacks =
        (o.groups.filterMap Group.security ++ o.security.toList).find? o.lacks := by
      rw [List.find?_append, List.find?_append, hunmet]
    exact congrArg (Option.map Requirement.scheme) hfind
  have hfault : ({ o with groups } : Outline σ).fault? = o.fault? := by
    rw [fault?, fault?, hunknown]
  have hrender : ({ o with groups } : Outline σ).render = o.render := by
    rw [render_eq, render_eq, placed_eq, placed_eq, hplaced]
    rfl
  rw [assemble, assemble, hfault, hrender, placed_eq, placed_eq, hplaced]

theorem assemble_of_sameFlow (info : Info) {calls calls' : List (Call σ)}
    (h : SameFlow (ofCalls info calls).lacks calls calls') :
    (ofCalls info calls').assemble = (ofCalls info calls).assemble := by
  have hgroups : (ofCalls info calls).groups = calls.filterMap Call.group? := by rw [ofCalls_eq]
  rw [ofCalls_groups info h.others]
  refine assemble_groups ?_ ?_
  · rw [hgroups, h.placed]
  · rw [hgroups, h.unmet]

end Outline

variable [SchemaView σ]

-- However often the endpoints of a run are cut anew, it comes to the same and the same is told.
-- What counts is the row of endpoints with their protections, but for groups without endpoints
-- whose scheme is missed.
theorem build_unchanged_by_regrouping (info : Info) (calls calls' : List (Call σ)) :
    (Relation.EqvGen Recut calls calls' →
      build info calls = build info calls' ∧
      (Outline.ofCalls info calls).make = (Outline.ofCalls info calls').make) ∧
    (calls.filter (fun call => call.group?.isNone) =
        calls'.filter (fun call => call.group?.isNone) →
      placedIn (calls.filterMap Call.group?) = placedIn (calls'.filterMap Call.group?) →
      (∀ g ∈ calls.filterMap Call.group?, g.endpoints = [] → Provided calls g.security) →
      (∀ g ∈ calls'.filterMap Call.group?, g.endpoints = [] → Provided calls g.security) →
      build info calls = build info calls' ∧
      (Outline.ofCalls info calls).make = (Outline.ofCalls info calls').make) := by
  constructor
  · intro h
    have hassemble : build info calls = build info calls' := by
      induction h with
      | rel first second hstep =>
        exact (Outline.assemble_of_sameFlow info (sameFlow_of_recut hstep _)).symm
      | refl run => rfl
      | symm first second _ ih => exact ih.symm
      | trans first second third _ _ ih ih' => exact ih.trans ih'
    exact ⟨hassemble, Outline.make_congr hassemble⟩
  · intro hothers hplaced hempty hempty'
    have hmissed := fun security => (Outline.any_lacks_ofCalls_iff info calls security).mpr
    have hflow : SameFlow (Outline.ofCalls info calls).lacks calls calls' :=
      sameFlow_of_placed hothers hplaced (fun g hm he => hmissed _ (hempty g hm he))
        fun g hm he => hmissed _ (hempty' g hm he)
    have hassemble := (Outline.assemble_of_sameFlow info hflow).symm
    exact ⟨hassemble, Outline.make_congr hassemble⟩

-- Two endpoints of the group have the same path and method.
def wholeCalls (others : List (Call Schema)) : List (Call Schema) :=
  .group ⟨listedUsers ++ pagedUsers, some usersReader⟩ :: others

-- These two stand in groups of their own, with all other calls between them.
def cutCalls (others : List (Call Schema)) : List (Call Schema) :=
  .group ⟨[], none⟩ :: .group ⟨listedUsers, some usersReader⟩ ::
    (others ++ [.group ⟨pagedUsers, some usersReader⟩])

theorem recut_users (others : List (Call Schema)) (h : ∀ call ∈ others, call.group? = none) :
    Relation.EqvGen Recut (wholeCalls others) (cutCalls others) := by
  have hsplit := Recut.split [] others [] listedUsers pagedUsers (some usersReader) h
  rw [List.append_nil] at hsplit
  exact .trans _ _ _ (.rel _ _ hsplit) (.rel _ _ (.empty [] _))

def usersScheme : Call Schema := .scheme "auth" { mechanism := .bearer }

-- A group that protects nothing, with another requirement for the same scheme.
def idleCalls : List (Call Schema) := [
  .group ⟨listedUsers, some usersReader⟩,
  usersScheme,
  .group ⟨[], some { scheme := "auth" }⟩,
  .group ⟨pagedUsers, some usersReader⟩]

theorem provided_idleCalls : ∀ g ∈ idleCalls.filterMap Call.group?,
    Provided (wholeCalls [usersScheme]) g.security := by
  have hgroups : idleCalls.filterMap Call.group? = [
      ⟨listedUsers, some ⟨"auth", ["read"]⟩⟩, ⟨[], some ⟨"auth", []⟩⟩,
      ⟨pagedUsers, some ⟨"auth", ["read"]⟩⟩] := rfl
  have hauth : ∀ grants, Provided (wholeCalls [usersScheme]) (some ⟨"auth", grants⟩) := by
    intro grants r h
    cases h
    exact List.mem_singleton_self _
  rw [hgroups]
  simp [hauth]

theorem build_unchanged_by_regrouping_users :
    Relation.EqvGen Recut (wholeCalls [usersScheme]) (cutCalls [usersScheme]) ∧
    build usersInfo (wholeCalls [usersScheme]) = build usersInfo (cutCalls [usersScheme]) ∧
    (∃ d events, build usersInfo (wholeCalls [usersScheme]) = .ok (d, events)) ∧
    build usersInfo (wholeCalls []) = build usersInfo (cutCalls []) ∧
    build usersInfo (wholeCalls []) = .error (.unknownScheme "auth") ∧
    build usersInfo (wholeCalls [usersScheme]) = build usersInfo idleCalls := by
  have hrecut := recut_users [usersScheme] (List.forall_mem_singleton.mpr rfl)
  have hvalid := (Outline.fault?_eq_none_iff
    (Outline.ofCalls usersInfo (wholeCalls [usersScheme]))).mp (by decide)
  have hfull : ∀ g ∈ (wholeCalls [usersScheme]).filterMap Call.group?, g.endpoints ≠ [] :=
    List.forall_mem_singleton.mpr (by decide)
  exact ⟨hrecut, ((build_unchanged_by_regrouping usersInfo _ _).1 hrecut).1,
    ⟨_, _, Outline.assemble_of_valid hvalid⟩,
    ((build_unchanged_by_regrouping usersInfo _ _).1 (recut_users [] (by simp))).1, rfl,
    ((build_unchanged_by_regrouping usersInfo (wholeCalls [usersScheme]) idleCalls).2 rfl rfl
      (fun g hm he => absurd he (hfull g hm)) fun g hm _ => provided_idleCalls g hm).1⟩

end ApiDescription
