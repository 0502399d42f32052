import AccessConsole.Proofs.FileSystem.Stopped

/-!
# Permission bits of files that are replaced

A replacement writes into a new file before it closes this file to others. Until then the file has
the permission bits that the umask leaves to a new file.

* `FileCall.create_bits`, `FileCall.rename_moves` — which bits a file gets.
* `OwnersAlone` — all files that have been written since the start are for their owner alone.
* `Guarded` — all of them but one are, and of this one something else is known.
* `FileCall.guarded_of_stopped` — what a replacement leaves behind that is stopped at any time.
* `FileCall.guarded_of_runCalls` — what it leaves behind when it comes back, failed or not.
* `FileCall.stopped_before_restrict` — a replacement that goes through has an open file on its way.
-/

namespace AccessConsole

open FileSystem

/-! ## Permission bits and calls -/

namespace FileCall

variable {fs fs' : FileSystem} {path : Path}

/-- A new file gets what the umask leaves, and a file that is emptied keeps its bits. -/
theorem create_bits (h : (create path).run fs = .ok fs') :
    ¬fs.IsDirectory (fs.goal path) ∧ ∃ permissions,
      fs' = fs.put (fs.goal path) (.file [] permissions) ∧
      (fs.node? (fs.goal path) = none ∧ permissions = newFile &&& ~~~fs.umask ∨
        ∃ content, fs.node? (fs.goal path) = some (.file content permissions)) := by
  obtain ⟨hfile, place, hl, hfree⟩ := create_ok h
  rw [goal_of_locate hl]
  refine ⟨hfree, ?_⟩
  obtain hn | ⟨content, permissions, hn⟩ := node?_of_not_isDirectory hfree
  · refine ⟨newFile &&& ~~~fs.umask, ?_, .inl ⟨hn, rfl⟩⟩
    simpa [run, hl, hn, hfile, bind, Except.bind, eq_comm] using h
  · refine ⟨permissions, ?_, .inr ⟨content, hn⟩⟩
    simpa [run, hl, hn, bind, Except.bind, eq_comm] using h

/-- Once a file has been made, it can be filled and closed to others. -/
theorem runCalls_of_create (h : (create path).run fs = .ok fs') (bytes : Bytes)
    (permissions : Permissions) : ∃ filled closed,
    (append path bytes).run fs' = .ok filled ∧
      (restrict path permissions).run filled = .ok closed := by
  obtain ⟨hfile, place, hl, -⟩ := create_ok h
  obtain ⟨hfree, bits, rfl, -⟩ := create_bits h
  rw [goal_of_locate hl] at hfree h ⊢
  have hne : place ≠ [] := ne_nil_of_not_isDirectory hfree
  have hmade := (create_same h).forth.locate hfile hl
  have happend : (append path bytes).run (fs.put place (.file [] bits)) = .ok _ :=
    append_eq hmade (node?_put_self fs hne _)
  have hfilled := (append_same happend).forth.locate hfile hmade
  exact ⟨_, _, happend, restrict_eq hfilled (node?_put_self _ hne _)⟩

theorem rename_moves {target : Path} (h : (rename path target).run fs = .ok fs') :
    ¬fs.IsDirectory (fs.goal target) ∧ ∃ content permissions,
      fs.node? (fs.goal path) = some (.file content permissions) ∧
      fs' = (fs.erase (fs.goal path)).put (fs.goal target) (.file content permissions) := by
  obtain ⟨hfile, goal, hgoal, hfree, -⟩ := rename_ok h
  rw [goal_of_locate hgoal]
  refine ⟨hfree, ?_⟩
  have hrun := h
  unfold run at h
  cases hl : fs.locate path with
  | error e => simp [hl, bind, Except.bind] at h
  | ok place =>
    rw [goal_of_locate hl]
    cases hn : fs.node? place with
    | none => simp [hl, hgoal, hn, bind, Except.bind] at h
    | some node =>
      cases node with
      | directory permissions => simp [hl, hgoal, hn, bind, Except.bind] at h
      | file content permissions =>
        refine ⟨content, permissions, rfl, ?_⟩
        exact Except.ok.inj (hrun.symm.trans (rename_eq hl hn hfile hgoal hfree))

end FileCall

/-! ## Guarded files -/

/-- All files with bytes in them are as they were at the start, or for their owner alone. -/
def OwnersAlone (start fs : FileSystem) : Prop :=
  ∀ place content permissions, fs.node? place = some (.file content permissions) → content ≠ [] →
    fs.node? place = start.node? place ∨ permissions = FileCall.ownerOnly

/-- A file that was not there at the start is for its owner alone. -/
theorem OwnersAlone.of_new {start fs : FileSystem} (h : OwnersAlone start fs) {place : Location}
    (hfresh : start.content? place = none) {content : Bytes} {permissions : Permissions}
    (hn : fs.node? place = some (.file content permissions)) (hcontent : content ≠ []) :
    permissions = FileCall.ownerOnly := by
  obtain hsame | howner := h place content permissions hn hcontent
  · rw [hn] at hsame
    simp [FileSystem.content?, ← hsame] at hfresh
  · exact howner

/-- A file at the place has some of the given permission bits. All other files are as they were at
the start, or for their owner alone. -/
structure Guarded (start : FileSystem) (place : Location) (bits : Permissions → Prop)
    (fs : FileSystem) : Prop where
  umask : fs.umask = start.umask
  workingDirectory : fs.workingDirectory = start.workingDirectory
  beside {content : Bytes} {permissions : Permissions} :
    fs.node? place = some (.file content permissions) → bits permissions
  elsewhere {k : Location} {content : Bytes} {permissions : Permissions} :
    k ≠ place → fs.node? k = some (.file content permissions) →
    fs.node? k = start.node? k ∨ permissions = FileCall.ownerOnly

namespace Guarded

variable {start fs fs' : FileSystem} {place : Location} {bits bits' : Permissions → Prop}

/-- Where there is no file, any bits can be given. -/
theorem refl (h : start.content? place = none) : Guarded start place bits start where
  umask := rfl
  workingDirectory := rfl
  beside hn := by simp [FileSystem.content?, hn] at h
  elsewhere _ _ := .inl rfl

theorem mono (h : Guarded start place bits fs) (hbits : ∀ p, bits p → bits' p) :
    Guarded start place bits' fs :=
  ⟨h.umask, h.workingDirectory, fun hn => hbits _ (h.beside hn), h.elsewhere⟩

theorem ownersAlone (h : Guarded start place (· = FileCall.ownerOnly) fs) :
    OwnersAlone start fs := by
  intro k content permissions hn _
  obtain rfl | hk := eq_or_ne k place
  · exact .inr (h.beside hn)
  · exact h.elsewhere hk hn

/-- The file at the place is replaced, and so are its bits. -/
theorem put_file (h : Guarded start place bits fs) (hplace : place ≠ []) {content : Bytes}
    {permissions : Permissions} (hbits : bits' permissions) :
    Guarded start place bits' (fs.put place (.file content permissions)) where
  umask := h.umask
  workingDirectory := h.workingDirectory
  beside hn := by
    rw [node?_put_self fs hplace] at hn
    cases hn
    exact hbits
  elsewhere hk hn := by
    rw [node?_put_of_ne fs hk] at hn ⊢
    exact h.elsewhere hk hn

theorem put_directory (h : Guarded start place bits fs) (k : Location) (permissions : Permissions) :
    Guarded start place bits (fs.put k (.directory permissions)) := by
  have hfile : ∀ {l content p},
      (fs.put k (.directory permissions)).node? l = some (.file content p) →
        (fs.put k (.directory permissions)).node? l = fs.node? l := by
    intro l content p hn
    obtain rfl | hl := eq_or_ne l k
    · obtain rfl | hnil := eq_or_ne l []
      · rfl
      · rw [node?_put_self fs hnil] at hn
        cases hn
    · exact node?_put_of_ne fs hl _
  refine ⟨h.umask, h.workingDirectory, fun hn => ?_, fun hk hn => ?_⟩
  · exact h.beside ((hfile hn).symm.trans hn)
  · have hsame := hfile hn
    rw [hsame] at hn ⊢
    exact h.elsewhere hk hn

/-- Where the file is gone, nothing is said of its bits. -/
theorem erase (h : Guarded start place bits fs) : Guarded start place bits' (fs.erase place) := by
  have hfile : ∀ {k content p}, (fs.erase place).node? k = some (.file content p) →
      k ≠ place ∧ (fs.erase place).node? k = fs.node? k := by
    intro k content p hn
    obtain rfl | hnil := eq_or_ne k []
    · cases hn
    · rw [node?_erase fs place k hnil] at hn ⊢
      split_ifs at hn with hk
      exact ⟨hk, if_neg hk⟩
  refine ⟨h.umask, h.workingDirectory, fun hn => absurd rfl (hfile hn).1, fun hk hn => ?_⟩
  have hsame := (hfile hn).2
  rw [hsame] at hn ⊢
  exact h.elsewhere hk hn

/-- A file can be put anywhere that is for its owner alone. -/
theorem put_closed (h : Guarded start place (· = FileCall.ownerOnly) fs) {k : Location}
    (hk : k ≠ []) (content : Bytes) :
    Guarded start place (· = FileCall.ownerOnly) (fs.put k (.file content FileCall.ownerOnly)) := by
  obtain rfl | hne := eq_or_ne k place
  · exact h.put_file hk rfl
  · refine ⟨h.umask, h.workingDirectory, fun hn => ?_, fun {l _ _} hl hn => ?_⟩
    · rw [node?_put_of_ne fs hne.symm] at hn
      exact h.beside hn
    · obtain rfl | hlk := eq_or_ne l k
      · rw [node?_put_self fs hk] at hn
        cases hn
        exact .inr rfl
      · rw [node?_put_of_ne fs hlk] at hn ⊢
        exact h.elsewhere hl hn

/-! ## One call -/

variable {path beside : Path}

theorem goal_eq (h : Guarded start place bits fs) (path : Path) : fs.goal path = start.goal path :=
  goal_congr h.workingDirectory path

theorem makeDirectory (h : Guarded start place bits fs)
    (hrun : (FileCall.makeDirectory path).run fs = .ok fs') : Guarded start place bits fs' := by
  obtain ⟨k, -, ⟨-, rfl⟩ | ⟨-, permissions, rfl⟩⟩ := FileCall.makeDirectory_eq hrun
  · exact h
  · exact h.put_directory k permissions

theorem create (h : Guarded start (start.goal beside) bits fs)
    (hrun : (FileCall.create beside).run fs = .ok fs') :
    Guarded start (start.goal beside)
      (fun p => bits p ∨ p = FileCall.newFile &&& ~~~start.umask) fs' := by
  obtain ⟨hfree, permissions, rfl, hbits⟩ := FileCall.create_bits hrun
  rw [h.goal_eq] at hfree hbits ⊢
  refine h.put_file (ne_nil_of_not_isDirectory hfree) ?_
  obtain ⟨-, rfl⟩ | ⟨content, hn⟩ := hbits
  · rw [h.umask]
    exact .inr rfl
  · exact .inl (h.beside hn)

theorem append (h : Guarded start (start.goal beside) bits fs) {bytes : Bytes}
    (hrun : (FileCall.append beside bytes).run fs = .ok fs') :
    Guarded start (start.goal beside) bits fs' := by
  obtain ⟨k, content, permissions, hl, hn, rfl⟩ := FileCall.append_ok hrun
  obtain rfl : k = start.goal beside := (goal_of_locate hl).symm.trans (h.goal_eq beside)
  exact h.put_file (ne_nil_of_not_isDirectory (not_isDirectory_of_file hn)) (h.beside hn)

theorem restrict (h : Guarded start (start.goal beside) bits fs) {permissions : Permissions}
    (hrun : (FileCall.restrict beside permissions).run fs = .ok fs') :
    Guarded start (start.goal beside) (· = permissions) fs' := by
  obtain ⟨k, old, node, hl, hold, hkind, rfl⟩ := FileCall.restrict_ok hrun
  obtain rfl : k = start.goal beside := (goal_of_locate hl).symm.trans (h.goal_eq beside)
  cases old with
  | file content p =>
    rw [← Except.ok.inj ((FileCall.restrict_eq hl hold).symm.trans hrun)]
    exact h.put_file (ne_nil_of_not_isDirectory (not_isDirectory_of_file hold)) rfl
  | directory p =>
    cases hkind with
    | directory _ p' =>
      have hdirectory := h.put_directory (start.goal beside) p'
      refine ⟨h.umask, h.workingDirectory, fun hn => ?_, hdirectory.elsewhere⟩
      obtain ⟨_, hd⟩ := (sameDirectories_put_directory ⟨p, hold⟩ p').forth.directory ⟨p, hold⟩
      rw [hd] at hn
      cases hn

/-- The bits go with the file. -/
theorem rename (h : Guarded start (start.goal beside) (· = FileCall.ownerOnly) fs)
    (hrun : (FileCall.rename beside path).run fs = .ok fs') :
    Guarded start (start.goal beside) (· = FileCall.ownerOnly) fs' := by
  obtain ⟨hfree, content, permissions, hn, rfl⟩ := FileCall.rename_moves hrun
  rw [h.goal_eq] at hn ⊢
  obtain rfl := h.beside hn
  exact (erase h).put_closed (ne_nil_of_not_isDirectory hfree) content

end Guarded

/-! ## Replacements -/

namespace FileCall

variable {start fs fs' : FileSystem} {path beside : Path} {content : Bytes}

theorem replace_eq_cons (path beside : Path) (content : Bytes) :
    replace path beside content = makeParents path ++
      [.create beside, .append beside content, .restrict beside ownerOnly,
        .rename beside path] := by
  simp [replace, write]

/-- The bits that the file beside may have before it is closed to others. -/
def openBits (fs : FileSystem) (permissions : Permissions) : Prop :=
  permissions = ownerOnly ∨ permissions = newFile &&& ~~~fs.umask

theorem guarded_of_makeParents {bits : Permissions → Prop} {rest : List FileCall}
    (h : Guarded start (start.goal beside) bits fs) (hs : Stopped (makeParents path) fs rest fs') :
    Guarded start (start.goal beside) bits fs' := by
  refine hs.keeps (K := fun call => ∃ q, call = makeDirectory q) ?_ ?_ ?_ h
  · rintro _ _ _ ⟨q, ⟨⟩⟩
  · rintro _ g g' ⟨q, rfl⟩ hrun hg
    exact hg.makeDirectory hrun
  · intro call hcall
    obtain ⟨q, -, rfl⟩ := List.mem_map.1 hcall
    exact ⟨q, rfl⟩

/-- A replacement that is stopped at any time leaves all closed, unless the file beside is still to
be closed to others. -/
theorem guarded_of_stopped {rest : List FileCall}
    (h : Guarded start (start.goal beside) (· = ownerOnly) fs)
    (hs : Stopped (replace path beside content) fs rest fs') :
    Guarded start (start.goal beside) (· = ownerOnly) fs' ∨
      .restrict beside ownerOnly ∈ rest ∧
        Guarded start (start.goal beside) (openBits start) fs' := by
  rw [replace_eq_cons] at hs
  obtain ⟨early, rfl, hearly⟩ | ⟨above, hparents, hfile⟩ := hs.append
  · exact .inl (guarded_of_makeParents h hearly)
  have habove := guarded_of_makeParents h hparents
  cases hfile with
  | between => exact .inl habove
  | later hcreate hfile =>
    have hmade : Guarded start (start.goal beside) (openBits start) _ := habove.create hcreate
    cases hfile with
    | between => exact .inr ⟨by simp, hmade⟩
    | torn _ happend => exact .inr ⟨by simp, hmade.append happend⟩
    | later happend hfile =>
      have hfilled := hmade.append happend
      cases hfile with
      | between => exact .inr ⟨by simp, hfilled⟩
      | later hrestrict hfile =>
        have hclosed := hfilled.restrict hrestrict
        cases hfile with
        | between => exact .inl hclosed
        | later hrename hfile =>
          cases hfile
          exact .inl (hclosed.rename hrename)

/-- A replacement that comes back leaves all closed, also when it fails: what is filled can be
closed to others. -/
theorem guarded_of_runCalls (h : Guarded start (start.goal beside) (· = ownerOnly) fs) :
    Guarded start (start.goal beside) (· = ownerOnly)
      (runCalls (replace path beside content) fs).2 := by
  rw [replace_eq_cons, runCalls_append]
  rcases hparents : runCalls (makeParents path) fs with ⟨result, above⟩
  cases result with
  | error e =>
    obtain ⟨rest, -, hstopped⟩ := stopped_of_runCalls_error hparents
    exact guarded_of_makeParents h hstopped
  | ok =>
    have habove := guarded_of_makeParents h (stopped_of_runCalls_ok hparents)
    simp only
    cases hcreate : (FileCall.create beside).run above with
    | error e =>
      simp only [runCalls, hcreate]
      exact habove
    | ok made =>
      obtain ⟨filled, closed, happend, hrestrict⟩ := runCalls_of_create hcreate content ownerOnly
      have hclosed := ((habove.create hcreate).append happend).restrict hrestrict
      simp only [runCalls, hcreate, happend, hrestrict]
      cases hrename : (FileCall.rename beside path).run closed with
      | error e => exact hclosed
      | ok done => exact hclosed.rename hrename

/-- Where a replacement goes through and no file is beside, it comes by a file that holds the whole
content with all bits of a new file. -/
theorem stopped_before_restrict (h : runCalls (replace path beside content) fs = (.ok (), fs'))
    (hfree : fs.content? (fs.goal beside) = none) :
    ∃ rest filled, Stopped (replace path beside content) fs rest filled ∧
      filled.node? (fs.goal beside) = some (.file content (newFile &&& ~~~fs.umask)) := by
  rw [replace_eq_cons] at h ⊢
  obtain ⟨above, hparents, hfile⟩ := runCalls_append_ok h
  obtain ⟨made, hcreate, hfile⟩ := runCalls_cons_ok hfile
  obtain ⟨filled, happend, -⟩ := runCalls_cons_ok hfile
  have hstopped := stopped_of_runCalls_ok hparents
  refine ⟨_, filled, hstopped.followed (.later hcreate (.later happend (.between _ _))), ?_⟩
  -- Directories were made, so there is no file beside yet.
  have habove : Guarded fs (fs.goal beside) (fun _ => False) above :=
    guarded_of_makeParents (.refl hfree) hstopped
  obtain ⟨hplace, permissions, rfl, ⟨-, hbits⟩ | ⟨content', hn⟩⟩ := create_bits hcreate
  · obtain ⟨place, content', permissions', hl, hn, rfl⟩ := append_ok happend
    have hne := ne_nil_of_not_isDirectory hplace
    obtain rfl : place = above.goal beside := (goal_of_locate hl).symm.trans (goal_congr rfl _)
    rw [node?_put_self above hne] at hn
    cases hn
    rw [← habove.goal_eq, node?_put_self _ hne, List.nil_append, hbits, habove.umask]
  · rw [habove.goal_eq] at hn
    exact absurd (habove.beside hn) id

end FileCall

end AccessConsole
