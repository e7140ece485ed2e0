import ApiDescription.Files.Store
import ApiDescription.Proofs.Files.Name

namespace ApiDescription.Files

-- Where a step leads, if there are folders enough.
def onward (place : Place) (name : String) : Place :=
  if isIdle name then place else if name = ".." then place.dropLast else place ++ [name]

-- The places from one on, as far as the steps lead.
def through (place : Place) : List String → List Place
  | [] => [place]
  | name :: rest => place :: through (onward place name) rest

theorem mem_through_self (place : Place) (names : List String) : place ∈ through place names := by
  cases names <;> exact List.mem_cons_self

-- Steps that lead nowhere lead past no other places.
theorem mem_through_leading (place other : Place) (names : List String) :
    other ∈ through place (leading names) ↔ other ∈ through place names := by
  induction names generalizing place with
  | nil => exact Iff.rfl
  | cons name rest ih =>
    by_cases h : isIdle name = true
    · have hstay : onward place name = place := if_pos h
      rw [leading_cons_of_isIdle h, through, hstay, List.mem_cons, ih]
      refine ⟨.inr, fun hm => hm.elim (fun heq => ?_) id⟩
      rw [heq]
      exact mem_through_self place rest
    · rw [leading_cons_of_leads (Bool.eq_false_iff.mpr h), through, through, List.mem_cons,
        List.mem_cons, ih]

theorem bind_eq_ok_iff {action : Except ε α} {next : α → Except ε β} {result : β} :
    action >>= next = .ok result ↔ ∃ value, action = .ok value ∧ next value = .ok result := by
  cases action with
  | error error => exact ⟨nofun, nofun⟩
  | ok value => exact ⟨fun h => ⟨value, rfl, h⟩, fun ⟨_, hvalue, h⟩ => by cases hvalue; exact h⟩

namespace Store

theorem at?_put_self (s : Store) {place : Place} (hne : place ≠ []) (item : Item) :
    (s.put place item).at? place = some item := by
  rw [at?, if_neg hne, put, List.lookup_cons_self]

theorem at?_put_of_ne (s : Store) {place other : Place} (h : other ≠ place) (item : Item) :
    (s.put place item).at? other = s.at? other := by
  have hrest : ∀ items : List (Place × Item),
      (items.filter fun entry => entry.1 ≠ place).lookup other = items.lookup other := by
    intro items
    induction items with
    | nil => rfl
    | cons entry rest ih =>
      by_cases hentry : entry.1 = place
      · have hother : (other == entry.1) = false := by simpa [hentry] using h
        rw [List.filter_cons_of_neg (by simp [hentry]), ih, List.lookup_cons, hother]
      · rw [List.filter_cons_of_pos (by simp [hentry]), List.lookup_cons, List.lookup_cons, ih]
  have hhead : (other == place) = false := by simpa using h
  rw [at?, at?, put, List.lookup_cons, hhead, hrest]

theorem step_eq_ok_iff {s : Store} {place next : Place} {name : String} :
    s.step place name = .ok next ↔
      s.at? place = some .folder ∧ name.utf8ByteSize ≤ nameLimit ∧ next = onward place name := by
  rw [step]
  cases h : s.at? place with
  | none => simp
  | some item =>
    cases item with
    | file content => simp
    | folder =>
      by_cases hlong : nameLimit < name.utf8ByteSize
      · simp [hlong, Nat.not_le.mpr hlong]
      · have hshort := Nat.not_lt.mp hlong
        by_cases hidle : isIdle name = true <;> simp [onward, hlong, hshort, hidle, eq_comm]

-- A walk gets to its end if all that it passes are folders and no step is too long.
theorem walk_append_eq_ok_iff {s : Store} {place last : Place} {names : List String}
    {name : String} :
    s.walk place (names ++ [name]) = .ok last ↔
      (∀ other ∈ through place names, s.at? other = some .folder) ∧
      (∀ step ∈ names ++ [name], step.utf8ByteSize ≤ nameLimit) ∧
      last = (names ++ [name]).foldl onward place := by
  induction names generalizing place with
  | nil =>
    have hwalk : s.walk place ([] ++ [name]) = s.step place name := by simp [walk]
    rw [hwalk, step_eq_ok_iff]
    simp [through]
  | cons first rest ih =>
    have hwalk : s.walk place (first :: rest ++ [name]) =
        s.step place first >>= fun next => s.walk next (rest ++ [name]) := rfl
    rw [hwalk, bind_eq_ok_iff]
    constructor
    · rintro ⟨next, hstep, hrest⟩
      obtain ⟨hfolder, hshort, rfl⟩ := step_eq_ok_iff.mp hstep
      obtain ⟨hfolders, hshorts, hlast⟩ := ih.mp hrest
      exact ⟨List.forall_mem_cons.mpr ⟨hfolder, hfolders⟩,
        List.forall_mem_cons.mpr ⟨hshort, hshorts⟩, hlast⟩
    · rintro ⟨hfolders, hshorts, hlast⟩
      obtain ⟨hfolder, hfolders⟩ := List.forall_mem_cons.mp hfolders
      obtain ⟨hshort, hshorts⟩ := List.forall_mem_cons.mp hshorts
      exact ⟨_, step_eq_ok_iff.mpr ⟨hfolder, hshort, rfl⟩, ih.mpr ⟨hfolders, hshorts, hlast⟩⟩

-- The folders on the way to a file, from where its name starts.
def way (s : Store) (name : String) : List Place := through (s.start name) (steps name).dropLast

-- Where a file is.
def place (s : Store) (name : String) : Place := (steps name).foldl onward (s.start name)

theorem way_congr {s other : Store} (h : other.here = s.here) (name : String) :
    other.way name = s.way name := by rw [way, way, start, start, h]

theorem place_congr {s other : Store} (h : other.here = s.here) (name : String) :
    other.place name = s.place name := by rw [place, place, start, start, h]

-- Only folders are on the way to a file, and no step of its name is too long.
structure Reaches (s : Store) (name : String) : Prop where
  folders : ∀ other ∈ s.way name, s.at? other = some .folder
  short : ∀ step ∈ steps name, step.utf8ByteSize ≤ nameLimit

theorem walk_steps_eq_ok_iff {s : Store} {name : String} {last : Place} :
    s.walk (s.start name) (steps name) = .ok last ↔ s.Reaches name ∧ last = s.place name := by
  obtain ⟨front, final, hsteps⟩ := exists_steps_eq name
  have hway : s.way name = through (s.start name) front := by
    rw [way, hsteps, List.dropLast_concat]
  rw [place, hsteps, walk_append_eq_ok_iff, ← and_assoc, ← hsteps, ← hway]
  exact and_congr_left' ⟨fun ⟨hfolders, hshort⟩ => ⟨hfolders, hshort⟩,
    fun h => ⟨h.folders, h.short⟩⟩

theorem read_eq_ok_iff {s : Store} {name : String} {content : ByteArray} :
    s.read name = .ok content ↔
      name ≠ "" ∧ s.Reaches name ∧ s.at? (s.place name) = some (.file content) := by
  rw [read]
  by_cases hname : name = ""
  · simp [hname]
  rw [if_neg hname, bind_eq_ok_iff]
  constructor
  · rintro ⟨last, hwalk, h⟩
    obtain ⟨hreaches, rfl⟩ := walk_steps_eq_ok_iff.mp hwalk
    refine ⟨hname, hreaches, ?_⟩
    split at h
    · cases h
    · cases h
    · rename_i hfile
      cases h
      exact hfile
  · rintro ⟨-, hreaches, hfile⟩
    exact ⟨_, walk_steps_eq_ok_iff.mpr ⟨hreaches, rfl⟩, by rw [hfile]⟩

-- What has to be so for a file to be written: its name ends in a name for it, and leads to no
-- folder.
structure Writable (s : Store) (name : String) : Prop extends s.Reaches name where
  ends : ∃ front last, steps name = front ++ [last] ∧ isIdle last = false
  free : s.at? (s.place name) ≠ some .folder

theorem of_write_eq_ok {s saved : Store} {name : String} {content : ByteArray}
    (h : s.write name content = .ok saved) :
    s.Writable name ∧ saved = s.put (s.place name) (.file content) := by
  obtain ⟨front, last, hsteps⟩ := exists_steps_eq name
  rw [write, hsteps, List.getLast?_concat, List.dropLast_concat, Option.getD_some] at h
  split at h
  · cases h
  split at h
  · cases h
  rename_i hempty
  obtain ⟨folder, hfolder, h⟩ := bind_eq_ok_iff.mp h
  obtain ⟨place, hplace, h⟩ := bind_eq_ok_iff.mp h
  have hwalk : s.walk (s.start name) (steps name) = .ok place := by
    rw [hsteps, walk, List.foldlM_append]
    exact bind_eq_ok_iff.mpr ⟨folder, hfolder, bind_eq_ok_iff.mpr ⟨place, hplace, rfl⟩⟩
  obtain ⟨hreaches, rfl⟩ := walk_steps_eq_ok_iff.mp hwalk
  split at h
  · cases h
  rename_i hdots
  split at h
  · cases h
  rename_i hfree
  refine ⟨⟨hreaches, ⟨front, last, hsteps, ?_⟩, hfree⟩, (Except.ok.inj h).symm⟩
  simp only [Bool.or_eq_true, decide_eq_true_eq, not_or] at hdots
  simp [isIdle, hempty, hdots.1]

namespace Writable

variable {s : Store} {name : String} (h : s.Writable name)
include h

theorem place_ne_nil : s.place name ≠ [] := by
  intro hplace
  exact h.free (by rw [hplace, at?, if_pos rfl])

theorem place_notMem_way : s.place name ∉ s.way name := fun hm => h.free (h.folders _ hm)

theorem ne_empty : name ≠ "" := by
  obtain ⟨front, last, hsteps, hlast⟩ := h.ends
  rintro rfl
  have hempty : some last = some "" := by
    rw [← List.getLast?_concat, ← hsteps]
    rfl
  rw [Option.some.inj hempty] at hlast
  cases hlast

end Writable

-- Some places are folders afterwards, and were folders or empty before. All else is as it was.
structure Opens (s made : Store) (places : List Place) : Prop where
  here : made.here = s.here
  folders : ∀ place ∈ places, made.at? place = some .folder
  free : ∀ place ∈ places, s.at? place = none ∨ s.at? place = some .folder
  others : ∀ place ∉ places, made.at? place = s.at? place

namespace Opens

theorem refl (s : Store) : s.Opens s [] where
  here := rfl
  folders _ := nofun
  free _ := nofun
  others _ _ := rfl

theorem of_folder {s : Store} {place : Place} (h : s.at? place = some .folder) :
    s.Opens s [place] where
  here := rfl
  folders := by simpa using h
  free := by simp [h]
  others _ _ := rfl

theorem of_missing {s : Store} {place : Place} (h : s.at? place = none) :
    s.Opens (s.put place .folder) [place] where
  here := rfl
  folders := by
    have hne : place ≠ [] := by
      rintro rfl
      cases h
    simpa using s.at?_put_self hne .folder
  free := by simp [h]
  others other hm := s.at?_put_of_ne (by simpa using hm) .folder

theorem append {s between made : Store} {front back : List Place} (hfront : s.Opens between front)
    (hback : between.Opens made back) : s.Opens made (front ++ back) where
  here := hback.here.trans hfront.here
  folders place hm := by
    by_cases h : place ∈ back
    · exact hback.folders place h
    · rw [hback.others place h]
      exact hfront.folders place ((List.mem_append.mp hm).resolve_right h)
  free place hm := by
    by_cases h : place ∈ front
    · exact hfront.free place h
    · rw [← hfront.others place h]
      exact hback.free place ((List.mem_append.mp hm).resolve_left h)
  others place hm := by
    obtain ⟨hf, hb⟩ := not_or.mp (mt List.mem_append.mpr hm)
    rw [hback.others place hb, hfront.others place hf]

-- Places that are folders anyway can be counted in.
theorem widen {s made : Store} {places all : List Place} (h : s.Opens made places)
    (hsubset : places ⊆ all) (hall : ∀ place ∈ all, made.at? place = some .folder) :
    s.Opens made all where
  here := h.here
  folders := hall
  free place hm := by
    by_cases hplace : place ∈ places
    · exact h.free place hplace
    · exact .inr (by rw [← h.others place hplace, hall place hm])
  others place hm := h.others place fun hplace => hm (hsubset hplace)

end Opens

-- Following steps opens all the places that they lead through.
theorem opens_makeFoldersFrom {s made : Store} {place : Place} {names : List String}
    (h : makeFoldersFrom place names s = (.ok (), made)) : s.Opens made (through place names) := by
  induction names generalizing s place with
  | nil =>
    rw [makeFoldersFrom] at h
    cases hplace : s.at? place with
    | none =>
      rw [hplace] at h
      cases h
      exact .of_missing hplace
    | some item =>
      cases item with
      | file content => simp [hplace] at h
      | folder =>
        rw [hplace] at h
        cases h
        exact .of_folder hplace
  | cons name rest ih =>
    rw [makeFoldersFrom] at h
    split at h
    · cases h
    · rename_i next hstep
      obtain ⟨hfolder, -, rfl⟩ := step_eq_ok_iff.mp hstep
      have hopen : s.Opens (if (s.at? place).isNone then s.put place .folder else s) [place] := by
        by_cases hplace : (s.at? place).isNone = true
        · rw [if_pos hplace]
          exact .of_missing (Option.isNone_iff_eq_none.mp hplace)
        · rw [if_neg hplace] at hfolder ⊢
          exact .of_folder hfolder
      exact hopen.append (ih h)

-- The folders that a name tells, made as far as they are missing.
def makeParents (s : Store) (name : String) : Except FileError Unit × Store :=
  match folder? name with
  | none => (.ok (), s)
  | some folder => s.makeFolders folder

theorem opens_way {s made : Store} {name : String} (h : s.makeParents name = (.ok (), made))
    (hwritable : made.Writable name) : s.Opens made (s.way name) := by
  rw [makeParents] at h
  cases hfolder : folder? name with
  | none =>
    rw [hfolder] at h
    cases h
    exact (Opens.refl s).widen (List.nil_subset _) hwritable.folders
  | some folder =>
    rw [hfolder] at h
    have hopens := opens_makeFoldersFrom h
    obtain ⟨front, last, hsteps, hlast⟩ := hwritable.ends
    obtain ⟨habsolute, hleading⟩ := leading_steps_folder? hfolder hsteps hlast
    have hstart : s.start folder = s.start name := by rw [start, start, habsolute]
    refine hopens.widen (fun other hm => ?_) (way_congr hopens.here name ▸ hwritable.folders)
    rw [← mem_through_leading, hleading, mem_through_leading, hstart] at hm
    rwa [way, hsteps, List.dropLast_concat]

-- A file was written where its name leads, and folders were made on the way to it. Nothing else is
-- changed.
structure Saved (s saved : Store) (name : String) (content : ByteArray) : Prop where
  here : saved.here = s.here
  folders : ∀ other ∈ s.way name, saved.at? other = some .folder ∧
    (s.at? other = none ∨ s.at? other = some .folder)
  file : saved.at? (s.place name) = some (.file content)
  free : s.at? (s.place name) ≠ some .folder
  others : ∀ other ∉ s.way name, other ≠ s.place name → saved.at? other = s.at? other

theorem saved_of_write {s made saved : Store} {name : String} {content : ByteArray}
    (hmade : s.makeParents name = (.ok (), made)) (hsaved : made.write name content = .ok saved) :
    s.Saved saved name content := by
  obtain ⟨hwritable, rfl⟩ := of_write_eq_ok hsaved
  have hopens := opens_way hmade hwritable
  have hplace := place_congr hopens.here name
  have hoff : made.place name ∉ s.way name :=
    way_congr hopens.here name ▸ hwritable.place_notMem_way
  exact {
    here := hopens.here
    folders := fun other hm => by
      rw [at?_put_of_ne made (ne_of_mem_of_not_mem hm hoff)]
      exact ⟨hopens.folders other hm, hopens.free other hm⟩
    file := hplace ▸ at?_put_self made hwritable.place_ne_nil _
    free := by
      rw [← hplace, ← hopens.others _ hoff]
      exact hwritable.free
    others := fun other hm hne => by
      rw [at?_put_of_ne made (hplace ▸ hne), hopens.others other hm] }

-- What could be read can be read again, and it is what it was unless it is the file itself, under
-- whatever name.
theorem Saved.read_of_read {s saved : Store} {name other : String} {content old : ByteArray}
    (h : s.Saved saved name content) (hread : s.read other = .ok old) :
    saved.read other = .ok (if s.place other = s.place name then content else old) := by
  obtain ⟨hne, hreaches, hfile⟩ := read_eq_ok_iff.mp hread
  have hfolder : ∀ place, s.at? place = some .folder → saved.at? place = some .folder := by
    intro place hplace
    by_cases hm : place ∈ s.way name
    · exact (h.folders place hm).1
    · rw [h.others place hm fun heq => h.free (heq ▸ hplace), hplace]
  have hreaches' : saved.Reaches other :=
    ⟨fun place hm => hfolder place (hreaches.folders place (way_congr h.here other ▸ hm)),
      hreaches.short⟩
  refine read_eq_ok_iff.mpr ⟨hne, hreaches', ?_⟩
  rw [place_congr h.here]
  split
  · rename_i hplace
    rw [hplace, h.file]
  · rename_i hplace
    rw [h.others _ (fun hm => ?_) hplace, hfile]
    rcases (h.folders _ hm).2 with hnone | hsome
    · rw [hfile] at hnone
      cases hnone
    · rw [hfile] at hsome
      cases hsome

theorem read_of_write {s saved : Store} {name : String} {content : ByteArray}
    (h : s.write name content = .ok saved) : saved.read name = .ok content := by
  obtain ⟨hwritable, rfl⟩ := of_write_eq_ok h
  refine read_eq_ok_iff.mpr ⟨hwritable.ne_empty, ⟨fun other hm => ?_, hwritable.short⟩,
    at?_put_self s hwritable.place_ne_nil _⟩
  exact (at?_put_of_ne s (ne_of_mem_of_not_mem hm hwritable.place_notMem_way) _).trans
    (hwritable.folders other hm)

end Store

end ApiDescription.Files
