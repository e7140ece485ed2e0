import ApiDescription.Proofs.Document.Progress
import Mathlib.Data.List.DropRight

namespace ApiDescription

variable {σ : Type}

namespace Text

-- A text without the white space around it.
def trim (text : String) : String :=
  String.ofList ((text.toList.dropWhile isSpace).rdropWhile isSpace)

theorem trim_eq_empty_iff (text : String) : trim text = "" ↔ isBlank text = true := by
  rw [trim, isBlank, List.all_eq_true, ← String.ofList_nil, String.ofList_inj,
    List.rdropWhile_eq_nil_iff]
  constructor
  · intro h
    have hnil : text.toList.dropWhile isSpace = [] := by
      cases hrest : text.toList.dropWhile isSpace with
      | nil => rfl
      | cons c rest =>
        have hc := h c (hrest ▸ List.mem_cons_self)
        have hhead := List.head?_dropWhile_not isSpace text.toList
        simp [hrest, hc] at hhead
    exact List.dropWhile_eq_nil_iff.mp hnil
  · intro h
    rw [List.dropWhile_eq_nil_iff.mpr h]
    simp

end Text

-- Whether a protection is none, or names a scheme that some call registers.
def Provided (calls : List (Call σ)) (security : Option Requirement) : Prop :=
  ∀ r, security = some r → Registers calls r.scheme

-- The first requirement of a run whose scheme no call registers: that of a group, or else the one
-- for the whole document.
inductive FirstUnmet (calls : List (Call σ)) : Requirement → Prop where
  | group {earlier later : List (Group σ)} {g : Group σ} {r : Requirement}
    (hgroups : calls.filterMap Call.group? = earlier ++ g :: later)
    (hearlier : ∀ other ∈ earlier, Provided calls other.security)
    (hsecurity : g.security = some r) (hscheme : ¬Registers calls r.scheme) : FirstUnmet calls r
  | security {r : Requirement}
    (hgroups : ∀ g ∈ calls.filterMap Call.group?, Provided calls g.security)
    (hsecurity : (calls.filterMap Call.security?).getLast? = some r)
    (hscheme : ¬Registers calls r.scheme) : FirstUnmet calls r

-- Why a run makes no document. Of several reasons the first one in this order counts.
inductive Rejects (info : Info) (calls : List (Call σ)) : OutlineError → Prop where
  | title (htitle : Text.trim info.title = "") : Rejects info calls .blankTitle
  | version (htitle : Text.trim info.title ≠ "") (hversion : Text.trim info.version = "") :
    Rejects info calls .blankVersion
  | scheme {r : Requirement} (htitle : Text.trim info.title ≠ "")
    (hversion : Text.trim info.version ≠ "") (hunmet : FirstUnmet calls r) :
    Rejects info calls (.unknownScheme r.scheme)

namespace Outline

-- Whether an outline has no scheme for a requirement.
def lacks (o : Outline σ) (r : Requirement) : Bool := !o.schemes.contains r.scheme

theorem lacks_ofCalls_iff (info : Info) (calls : List (Call σ)) (r : Requirement) :
    (ofCalls info calls).lacks r = true ↔ ¬Registers calls r.scheme := by
  rw [lacks, Bool.not_eq_true', ← Bool.not_eq_true, ofCalls_eq, Entries.contains_iff,
    Entries.keys_ofList, List.mem_eraseDups]
  rfl

theorem any_lacks_ofCalls_iff (info : Info) (calls : List (Call σ))
    (security : Option Requirement) :
    ¬security.any (ofCalls info calls).lacks = true ↔ Provided calls security := by
  cases security with
  | none => simp [Provided]
  | some r =>
    rw [Option.any_some, lacks_ofCalls_iff, Classical.not_not]
    simp [Provided]

theorem find?_lacks_eq_none {calls : List (Call σ)} {groups : List (Group σ)} (info : Info)
    (h : ∀ g ∈ groups, Provided calls g.security) :
    (groups.filterMap Group.security).find? (ofCalls info calls).lacks = none := by
  have hnone : groups.find? (fun g => g.security.any (ofCalls info calls).lacks) = none :=
    List.find?_eq_none.mpr fun g hm => (any_lacks_ofCalls_iff info calls g.security).mpr (h g hm)
  rw [List.find?_filterMap, hnone]
  rfl

theorem find?_lacks_of_group {calls : List (Call σ)} {earlier later : List (Group σ)}
    {g : Group σ} {r : Requirement} (info : Info)
    (hgroups : calls.filterMap Call.group? = earlier ++ g :: later)
    (hearlier : ∀ other ∈ earlier, Provided calls other.security)
    (hsecurity : g.security = some r) (hscheme : ¬Registers calls r.scheme) :
    (ofCalls info calls).requirements.find? (ofCalls info calls).lacks = some r := by
  have hr := (lacks_ofCalls_iff info calls r).mpr hscheme
  rw [requirements_ofCalls, hgroups, List.filterMap_append, List.append_assoc, List.find?_append,
    find?_lacks_eq_none info hearlier, List.filterMap_cons_some hsecurity, List.cons_append,
    List.find?_cons_of_pos hr]
  rfl

theorem find?_lacks_of_provided {calls : List (Call σ)} (info : Info)
    (hgroups : ∀ g ∈ calls.filterMap Call.group?, Provided calls g.security) :
    (ofCalls info calls).requirements.find? (ofCalls info calls).lacks =
      (calls.filterMap Call.security?).getLast?.filter (ofCalls info calls).lacks := by
  rw [requirements_ofCalls, List.find?_append, find?_lacks_eq_none info hgroups]
  cases (calls.filterMap Call.security?).getLast? with
  | none => rfl
  | some r => simp [Option.filter_some, List.find?_singleton]

theorem find?_lacks_eq_some_iff (info : Info) (calls : List (Call σ)) (r : Requirement) :
    (ofCalls info calls).requirements.find? (ofCalls info calls).lacks = some r ↔
      FirstUnmet calls r := by
  constructor
  · intro h
    cases hfind : (calls.filterMap Call.group?).find?
        (fun g => g.security.any (ofCalls info calls).lacks) with
    | none =>
      have hgroups : ∀ g ∈ calls.filterMap Call.group?, Provided calls g.security :=
        fun g hm => (any_lacks_ofCalls_iff ..).mp (List.find?_eq_none.mp hfind g hm)
      rw [find?_lacks_of_provided info hgroups, Option.filter_eq_some_iff] at h
      exact .security hgroups h.1 ((lacks_ofCalls_iff info calls r).mp h.2)
    | some g =>
      obtain ⟨hany, earlier, later, hgroups, hbefore⟩ := List.find?_eq_some_iff_append.mp hfind
      obtain ⟨first, hsecurity, hlacks⟩ := (Option.any_eq_true ..).mp hany
      have hearlier : ∀ other ∈ earlier, Provided calls other.security :=
        fun other hm => (any_lacks_ofCalls_iff info calls _).mp (by simpa using hbefore other hm)
      have hscheme := (lacks_ofCalls_iff info calls first).mp hlacks
      have hfirst := find?_lacks_of_group info hgroups hearlier hsecurity hscheme
      obtain rfl : first = r := Option.some.inj (hfirst.symm.trans h)
      exact .group hgroups hearlier hsecurity hscheme
  · intro h
    cases h with
    | group hgroups hearlier hsecurity hscheme =>
      exact find?_lacks_of_group info hgroups hearlier hsecurity hscheme
    | security hgroups hsecurity hscheme =>
      rw [find?_lacks_of_provided info hgroups, hsecurity]
      exact Option.filter_eq_some_iff.mpr ⟨rfl, (lacks_ofCalls_iff info calls r).mpr hscheme⟩

theorem unknownScheme?_ofCalls_eq_some_iff (info : Info) (calls : List (Call σ)) (name : String) :
    (ofCalls info calls).unknownScheme? = some name ↔ ∃ r, FirstUnmet calls r ∧ r.scheme = name := by
  rw [unknownScheme?, Option.map_eq_some_iff]
  exact exists_congr fun r => and_congr_left' (find?_lacks_eq_some_iff info calls r)

theorem fault?_ofCalls_eq_some_iff (info : Info) (calls : List (Call σ)) (error : OutlineError) :
    (ofCalls info calls).fault? = some error ↔ Rejects info calls error := by
  have hinfo : (ofCalls info calls).info = info := by rw [ofCalls_eq]
  have htrim : ∀ text, Text.trim text = "" ↔ Text.isBlank text = true := Text.trim_eq_empty_iff
  rw [fault?, hinfo]
  constructor
  · intro h
    by_cases htitle : Text.isBlank info.title = true
    · rw [if_pos htitle] at h
      cases h
      exact .title ((htrim _).mpr htitle)
    rw [if_neg htitle] at h
    by_cases hversion : Text.isBlank info.version = true
    · rw [if_pos hversion] at h
      cases h
      exact .version ((htrim _).not.mpr htitle) ((htrim _).mpr hversion)
    rw [if_neg hversion] at h
    obtain ⟨name, hname, rfl⟩ := Option.map_eq_some_iff.mp h
    obtain ⟨r, hunmet, rfl⟩ := (unknownScheme?_ofCalls_eq_some_iff info calls name).mp hname
    exact .scheme ((htrim _).not.mpr htitle) ((htrim _).not.mpr hversion) hunmet
  · intro h
    cases h with
    | title htitle => rw [if_pos ((htrim _).mp htitle)]
    | version htitle hversion =>
      rw [if_neg ((htrim _).not.mp htitle), if_pos ((htrim _).mp hversion)]
    | scheme htitle hversion hunmet =>
      have hname := (unknownScheme?_ofCalls_eq_some_iff info calls _).mpr ⟨_, hunmet, rfl⟩
      rw [if_neg ((htrim _).not.mp htitle), if_neg ((htrim _).not.mp hversion), hname]
      rfl

end Outline

-- The six ways to contribute to a document.
inductive Call.Kind where
  | scheme
  | group
  | security
  | server
  | definition
  | tags
deriving DecidableEq, Repr

def Call.kind : Call σ → Call.Kind
  | scheme .. => .scheme
  | group _ => .group
  | security _ => .security
  | server _ => .server
  | definition .. => .definition
  | tags _ => .tags

-- A call says nothing of another kind than its own.
theorem Call.parts_eq_none (call : Call σ) :
    (call.kind ≠ .scheme → call.scheme? = none) ∧ (call.kind ≠ .group → call.group? = none) ∧
    (call.kind ≠ .security → call.security? = none) ∧
    (call.kind ≠ .server → call.server? = none) ∧
    (call.kind ≠ .definition → call.definition? = none) ∧
    (call.kind ≠ .tags → call.tagging? = none) := by
  cases call <;> simp [kind, scheme?, group?, security?, server?, definition?, tagging?]

-- Whether two runs make the same calls of each kind in the same order.
def SameByKind (calls calls' : List (Call σ)) : Prop :=
  ∀ kind, calls.filter (fun call => call.kind = kind) = calls'.filter fun call => call.kind = kind

theorem SameByKind.filterMap_eq {β : Type} {calls calls' : List (Call σ)}
    (h : SameByKind calls calls') {part : Call σ → Option β} {kind : Call.Kind}
    (hpart : ∀ call, call.kind ≠ kind → part call = none) :
    calls.filterMap part = calls'.filterMap part :=
  filterMap_eq_of_filter_eq (fun call hk => hpart call (of_decide_eq_false hk)) (h kind)

theorem Outline.ofCalls_congr (info : Info) {calls calls' : List (Call σ)}
    (h : SameByKind calls calls') : ofCalls info calls = ofCalls info calls' := by
  rw [ofCalls_eq, ofCalls_eq,
    h.filterMap_eq fun call => call.parts_eq_none.1,
    h.filterMap_eq fun call => call.parts_eq_none.2.1,
    h.filterMap_eq fun call => call.parts_eq_none.2.2.1,
    h.filterMap_eq fun call => call.parts_eq_none.2.2.2.1,
    h.filterMap_eq fun call => call.parts_eq_none.2.2.2.2.1,
    h.filterMap_eq fun call => call.parts_eq_none.2.2.2.2.2]

-- A scheme may come after calls that do not register another one.
theorem sameByKind_scheme (before middle after : List (Call σ)) (name : String)
    (scheme : SecurityScheme) (h : ∀ call ∈ middle, call.kind ≠ .scheme) :
    SameByKind (before ++ middle ++ .scheme name scheme :: after)
      (before ++ .scheme name scheme :: (middle ++ after)) := by
  intro kind
  by_cases hk : kind = .scheme
  · have hmiddle : middle.filter (fun call => call.kind = kind) = [] := by
      rw [List.filter_eq_nil_iff]
      intro call hm
      simp [hk, h call hm]
    simp [List.filter_append, List.filter_cons, hmiddle]
  · have hscheme : ¬(Call.scheme name scheme : Call σ).kind = kind := fun he => hk he.symm
    simp [List.filter_append, hscheme]

variable [SchemaView σ]

-- A run of calls makes no document for exactly these reasons, and then nothing is told.
theorem build_rejects (info : Info) (calls : List (Call σ)) :
    (∀ error, build info calls = .error error ↔ Rejects info calls error) ∧
    (∀ error, Rejects info calls error → (Outline.ofCalls info calls).make.Fails error) ∧
    ((∀ error, ¬Rejects info calls error) →
      ∃ d events, build info calls = .ok (d, events) ∧
        (Outline.ofCalls info calls).make.Tells d events) := by
  have hbuild : ∀ error, build info calls = .error error ↔ Rejects info calls error := by
    intro error
    rw [build, Outline.assemble_eq_error_iff, Outline.fault?_ofCalls_eq_some_iff]
  have hmake := (Outline.ofCalls info calls).make_assemble
  rw [← build] at hmake
  refine ⟨hbuild, fun error h => ?_, fun h => ?_⟩
  · rw [(hbuild error).mpr h] at hmake
    exact hmake
  · cases hresult : build info calls with
    | error error => exact absurd ((hbuild error).mp hresult) (h error)
    | ok result =>
      rw [hresult] at hmake
      exact ⟨result.1, result.2, rfl, hmake⟩

-- The scheme of the first group comes later. The second group has no endpoints, but its scheme is
-- missed before the one for the whole document.
def unmetCalls : List (Call Schema) := [
  .security { scheme := "root" },
  .group ⟨pagedUsers, some usersReader⟩,
  .group ⟨[], some { scheme := "admin" }⟩,
  .scheme "auth" { mechanism := .bearer }]

theorem firstUnmet_unmetCalls : FirstUnmet unmetCalls { scheme := "admin" } := by
  have hgroups : unmetCalls.filterMap Call.group? =
      [⟨pagedUsers, some usersReader⟩] ++ ⟨[], some { scheme := "admin" }⟩ :: [] := rfl
  have hearlier : Provided unmetCalls (some usersReader) := by
    intro r h
    cases h
    exact List.mem_singleton_self _
  refine .group hgroups (List.forall_mem_singleton.mpr hearlier) rfl ?_
  simp [Registers, unmetCalls, Call.scheme?, List.filterMap_cons]

-- Not even a space that does not break makes a title.
theorem build_rejects_unmet :
    build { title := "\u00a0", version := "" } unmetCalls = .error .blankTitle ∧
    build { title := "Users", version := "\t" } unmetCalls = .error .blankVersion ∧
    build usersInfo unmetCalls = .error (.unknownScheme "admin") ∧
    (Outline.ofCalls usersInfo unmetCalls).make.Fails (.unknownScheme "admin") ∧
    (∀ error, ¬Rejects usersInfo (usersCalls (some usersReader)) error) ∧
    ∃ d events, build usersInfo (usersCalls (some usersReader)) = .ok (d, events) ∧
      (Outline.ofCalls usersInfo (usersCalls (some usersReader))).make.Tells d events := by
  have hadmin : Rejects usersInfo unmetCalls (.unknownScheme "admin") :=
    .scheme (by decide +kernel) (by decide +kernel) firstUnmet_unmetCalls
  have hnone : ∀ error, ¬Rejects usersInfo (usersCalls (some usersReader)) error := by
    intro error h
    have hfault := (Outline.fault?_ofCalls_eq_some_iff ..).mpr h
    have hvalid : (Outline.ofCalls usersInfo (usersCalls (some usersReader))).fault? = none := by
      decide
    rw [hvalid] at hfault
    cases hfault
  exact ⟨((build_rejects _ _).1 _).mpr (.title (by decide +kernel)),
    ((build_rejects _ _).1 _).mpr (.version (by decide +kernel) (by decide +kernel)),
    ((build_rejects _ _).1 _).mpr hadmin, (build_rejects _ _).2.1 _ hadmin, hnone,
    (build_rejects _ _).2.2 hnone⟩

-- Calls of different kinds can be made in any order.
theorem build_independent_calls (info : Info) :
    (∀ calls calls' : List (Call σ), SameByKind calls calls' →
      build info calls = build info calls' ∧
        (Outline.ofCalls info calls).make = (Outline.ofCalls info calls').make) ∧
    ∀ (before middle after : List (Call σ)) (name : String) (scheme : SecurityScheme),
      (∀ call ∈ middle, call.kind ≠ .scheme) →
      build info (before ++ middle ++ .scheme name scheme :: after) =
        build info (before ++ .scheme name scheme :: (middle ++ after)) := by
  have houtline : ∀ calls calls' : List (Call σ), SameByKind calls calls' →
      Outline.ofCalls info calls = Outline.ofCalls info calls' :=
    fun calls calls' h => Outline.ofCalls_congr info h
  refine ⟨fun calls calls' h => ?_, fun before middle after name scheme h => ?_⟩
  · rw [build, build, houtline calls calls' h]
    exact ⟨rfl, rfl⟩
  · have hsame := sameByKind_scheme before middle after name scheme h
    rw [build, build, houtline _ _ hsame]

-- A scheme that is first registered after its group, then replaced, and all else shuffled.
def scatteredCalls : List (Call Schema) := [
  .group ⟨pagedUsers, some usersReader⟩,
  .server { url := "/api" },
  .scheme "auth" { mechanism := .basic },
  .definition "User" .string,
  .security usersReader,
  .group ⟨listedUsers, none⟩,
  .scheme "auth" { mechanism := .bearer },
  .tags fun _ => ["users"]]

def gatheredCalls : List (Call Schema) := [
  .tags fun _ => ["users"],
  .scheme "auth" { mechanism := .basic },
  .scheme "auth" { mechanism := .bearer },
  .definition "User" .string,
  .server { url := "/api" },
  .security usersReader,
  .group ⟨pagedUsers, some usersReader⟩,
  .group ⟨listedUsers, none⟩]

theorem build_independent_calls_scattered :
    SameByKind scatteredCalls gatheredCalls ∧
    build usersInfo scatteredCalls = build usersInfo gatheredCalls ∧
    (Outline.ofCalls usersInfo scatteredCalls).make =
      (Outline.ofCalls usersInfo gatheredCalls).make ∧
    (∃ d events, build usersInfo scatteredCalls = .ok (d, events)) ∧
    build usersInfo (usersCalls (some usersReader)) = build usersInfo [
      .group ⟨listedUsers, none⟩,
      .scheme "auth" { mechanism := .bearer },
      .group ⟨pagedUsers, some usersReader⟩] := by
  have hsame : SameByKind scatteredCalls gatheredCalls := by
    intro kind
    cases kind <;> rfl
  have hvalid := (Outline.fault?_eq_none_iff (Outline.ofCalls usersInfo scatteredCalls)).mp
    (by decide)
  obtain ⟨hbuild, hmake⟩ := (build_independent_calls usersInfo).1 _ _ hsame
  have hlater := (build_independent_calls usersInfo).2 [.group ⟨listedUsers, none⟩]
    [.group ⟨pagedUsers, some usersReader⟩] [] "auth" { mechanism := .bearer }
    (by simp [Call.kind])
  exact ⟨hsame, hbuild, hmake, ⟨_, _, Outline.assemble_of_valid hvalid⟩, hlater⟩

end ApiDescription
