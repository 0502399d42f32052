import AccessConsole.FileSystem.Basic
import Mathlib.Tactic.SplitIfs
import Mathlib.Logic.Basic

/-!
# Places in a file system

* `FileSystem.node?_put`, `FileSystem.node?_erase` — what is at a place after an edit.
* `FileSystem.IsDirectory` — there is a directory at a place.
* `FileSystem.Extends`, `FileSystem.SameDirectories` — a file system that has all the directories of
  another one, and one that has no others.
* `FileSystem.locate_eq_ok`, `FileSystem.Extends.locate` — where a path leads depends on nothing but
  directories.
-/

namespace AccessConsole.FileSystem

/-! ## Edits -/

@[simp] theorem node?_nil (fs : FileSystem) : fs.node? [] = some (.directory rootPermissions) := rfl

theorem node?_erase (fs : FileSystem) (place k : Location) (hk : k ≠ []) :
    (fs.erase place).node? k = if k = place then none else fs.node? k := by
  unfold node? erase
  rw [if_neg hk, if_neg hk, List.find?_filter]
  split_ifs with h
  · subst h
    rw [List.find?_eq_none.mpr]
    · rfl
    · simp
  · congr 2
    funext e
    by_cases he : e.1 = k
    · simp [he, h]
    · simp [he]

theorem node?_put_self (fs : FileSystem) {place : Location} (h : place ≠ []) (node : Node) :
    (fs.put place node).node? place = some node := by
  simp [node?, put, h]

theorem node?_put_of_ne (fs : FileSystem) {place k : Location} (h : k ≠ place) (node : Node) :
    (fs.put place node).node? k = fs.node? k := by
  by_cases hk : k = []
  · rw [hk, node?_nil, node?_nil]
  · have herase : (fs.put place node).node? k = (fs.erase place).node? k := by
      simp [node?, put, hk, Ne.symm h]
    rw [herase, node?_erase fs place k hk, if_neg h]

/-! ## Directories -/

/-- There is a directory at a place. -/
def IsDirectory (fs : FileSystem) (place : Location) : Prop :=
  ∃ permissions, fs.node? place = some (.directory permissions)

theorem isDirectory_nil (fs : FileSystem) : fs.IsDirectory [] := ⟨rootPermissions, rfl⟩

theorem ne_nil_of_not_isDirectory {fs : FileSystem} {place : Location}
    (h : ¬fs.IsDirectory place) : place ≠ [] := by
  rintro rfl
  exact h fs.isDirectory_nil

theorem not_isDirectory_of_file {fs : FileSystem} {place : Location} {content : Bytes}
    {permissions : Permissions} (h : fs.node? place = some (.file content permissions)) :
    ¬fs.IsDirectory place := by
  rintro ⟨p, hp⟩
  rw [h] at hp
  cases hp

theorem not_isDirectory_of_none {fs : FileSystem} {place : Location} (h : fs.node? place = none) :
    ¬fs.IsDirectory place := by
  rintro ⟨p, hp⟩
  rw [h] at hp
  cases hp

/-- What is at a place that is no directory is a file, or nothing. -/
theorem node?_of_not_isDirectory {fs : FileSystem} {place : Location} (h : ¬fs.IsDirectory place) :
    fs.node? place = none ∨
      ∃ content permissions, fs.node? place = some (.file content permissions) := by
  cases hn : fs.node? place with
  | none => exact .inl rfl
  | some node =>
    cases node with
    | directory permissions => exact absurd ⟨permissions, hn⟩ h
    | file content permissions => exact .inr ⟨content, permissions, rfl⟩

/-- A file system with the directories of another one, and perhaps more. -/
structure Extends (fs fs' : FileSystem) : Prop where
  workingDirectory : fs'.workingDirectory = fs.workingDirectory
  directory {place : Location} : fs.IsDirectory place → fs'.IsDirectory place

theorem Extends.refl (fs : FileSystem) : Extends fs fs := ⟨rfl, id⟩

theorem Extends.trans {fs fs' fs'' : FileSystem} (h : Extends fs fs') (h' : Extends fs' fs'') :
    Extends fs fs'' :=
  ⟨h'.workingDirectory.trans h.workingDirectory, fun hd => h'.directory (h.directory hd)⟩

/-- Nothing is lost where something is put in the place of what is no directory. -/
theorem extends_put {fs : FileSystem} {place : Location} (h : ¬fs.IsDirectory place) (node : Node) :
    Extends fs (fs.put place node) := by
  refine ⟨rfl, ?_⟩
  rintro k ⟨p, hk⟩
  have hne : k ≠ place := by
    rintro rfl
    exact h ⟨p, hk⟩
  exact ⟨p, (node?_put_of_ne fs hne node).trans hk⟩

/-- Two file systems with the same directories. -/
structure SameDirectories (fs fs' : FileSystem) : Prop where
  forth : Extends fs fs'
  back : Extends fs' fs

theorem SameDirectories.trans {fs fs' fs'' : FileSystem} (h : SameDirectories fs fs')
    (h' : SameDirectories fs' fs'') : SameDirectories fs fs'' :=
  ⟨h.forth.trans h'.forth, h'.back.trans h.back⟩

theorem SameDirectories.isDirectory_iff {fs fs' : FileSystem} (h : SameDirectories fs fs')
    {place : Location} : fs'.IsDirectory place ↔ fs.IsDirectory place :=
  ⟨h.back.directory, h.forth.directory⟩

/-- A file in the place of a file or of nothing changes no directory. -/
theorem sameDirectories_put_file {fs : FileSystem} {place : Location} (h : ¬fs.IsDirectory place)
    (content : Bytes) (permissions : Permissions) :
    SameDirectories fs (fs.put place (.file content permissions)) := by
  refine ⟨extends_put h _, rfl, ?_⟩
  rintro k ⟨p, hk⟩
  obtain rfl | hne := eq_or_ne k place
  · rw [node?_put_self fs (ne_nil_of_not_isDirectory h)] at hk
    cases hk
  · exact ⟨p, (node?_put_of_ne fs hne _).symm.trans hk⟩

/-- A directory in the place of a directory changes none. -/
theorem sameDirectories_put_directory {fs : FileSystem} {place : Location}
    (h : fs.IsDirectory place) (permissions : Permissions) :
    SameDirectories fs (fs.put place (.directory permissions)) := by
  refine ⟨⟨rfl, ?_⟩, rfl, ?_⟩
  · rintro k ⟨p, hk⟩
    obtain rfl | hnil := eq_or_ne k []
    · exact isDirectory_nil _
    · obtain rfl | hne := eq_or_ne k place
      · exact ⟨permissions, node?_put_self fs hnil _⟩
      · exact ⟨p, (node?_put_of_ne fs hne _).trans hk⟩
  · rintro k ⟨p, hk⟩
    obtain rfl | hne := eq_or_ne k place
    · exact h
    · exact ⟨p, (node?_put_of_ne fs hne _).symm.trans hk⟩

theorem sameDirectories_erase {fs : FileSystem} {place : Location} (h : ¬fs.IsDirectory place) :
    SameDirectories fs (fs.erase place) := by
  refine ⟨⟨rfl, ?_⟩, rfl, ?_⟩
  · rintro k ⟨p, hk⟩
    obtain rfl | hnil := eq_or_ne k []
    · exact isDirectory_nil _
    · have hne : k ≠ place := by
        rintro rfl
        exact h ⟨p, hk⟩
      exact ⟨p, by rw [node?_erase fs place k hnil, if_neg hne, hk]⟩
  · rintro k ⟨p, hk⟩
    obtain rfl | hnil := eq_or_ne k []
    · exact isDirectory_nil _
    · rw [node?_erase fs place k hnil] at hk
      split_ifs at hk
      exact ⟨p, hk⟩

/-! ## Where a path leads -/

theorem Extends.walk {fs fs' : FileSystem} (h : Extends fs fs') {here place : Location}
    {steps : List Step} (hw : fs.walk here steps = .ok place) :
    fs'.walk here steps = .ok place := by
  induction steps generalizing here with
  | nil => exact hw
  | cons step rest ih =>
    -- A step that was made began in a directory, which is still there.
    unfold FileSystem.walk at hw ⊢
    cases hn : fs.node? here with
    | none => simp [hn] at hw
    | some node =>
      cases node with
      | file content permissions => simp [hn] at hw
      | directory permissions =>
        obtain ⟨p, hp⟩ := h.directory ⟨permissions, hn⟩
        simp only [hn] at hw
        simp only [hp]
        cases step with
        | up => exact ih hw
        | down name =>
          simp only at hw ⊢
          split_ifs at hw ⊢
          exact ih hw

/-- Where a path leads that may lead to a file. -/
theorem locate_eq_ok {fs : FileSystem} {path : Path} (hfile : path.toDirectory = false)
    {place : Location} :
    fs.locate path = .ok place ↔ path.check = .ok () ∧
      fs.walk (if path.absolute then [] else fs.workingDirectory) path.steps = .ok place := by
  unfold locate
  cases path.check with
  | error e => simp [bind, Except.bind]
  | ok u =>
    cases fs.walk (if path.absolute then [] else fs.workingDirectory) path.steps with
    | error e => simp [bind, Except.bind]
    | ok l => simp [bind, Except.bind, hfile]

/-- A path that can only lead to a directory leads to no file. -/
theorem toDirectory_of_located {fs : FileSystem} {path : Path} {place : Location}
    {content : Bytes} {permissions : Permissions} (hl : fs.locate path = .ok place)
    (hn : fs.node? place = some (.file content permissions)) : path.toDirectory = false := by
  cases hd : path.toDirectory with
  | false => rfl
  | true =>
    unfold locate at hl
    cases hc : path.check with
    | error e => simp [hc, bind, Except.bind] at hl
    | ok u =>
      cases hw : fs.walk (if path.absolute then [] else fs.workingDirectory) path.steps with
      | error e => simp [hc, hw, bind, Except.bind] at hl
      | ok l =>
        simp only [hc, hw, hd, bind, Except.bind] at hl
        split at hl
        · cases hl
        · rename_i hno
          cases hl
          exact absurd hn (hno _ _ rfl)

/-- A path that may lead to a file leads to the same place where there are more directories. -/
theorem Extends.locate {fs fs' : FileSystem} (h : Extends fs fs') {path : Path}
    (hfile : path.toDirectory = false) {place : Location} (hl : fs.locate path = .ok place) :
    fs'.locate path = .ok place := by
  obtain ⟨hcheck, hwalk⟩ := (locate_eq_ok hfile).1 hl
  refine (locate_eq_ok hfile).2 ⟨hcheck, ?_⟩
  rw [h.workingDirectory]
  exact h.walk hwalk

theorem read_of_node? {fs : FileSystem} {path : Path} {place : Location} {content : Bytes}
    {permissions : Permissions} (hl : fs.locate path = .ok place)
    (hn : fs.node? place = some (.file content permissions)) : fs.read path = .ok content := by
  simp [read, look, hl, hn, bind, Except.bind]

end AccessConsole.FileSystem
