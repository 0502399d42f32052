import AccessConsole.FileSystem.Call
import AccessConsole.Proofs.FileSystem.Way

/-!
# Replacing a file

* `makeDirectory_eq`, `create_ok`, `append_ok`, `restrict_ok`, `rename_ok` — what a call did that
  succeeded.
* `create_eq`, `append_eq`, `restrict_eq`, `rename_eq` — when a call succeeds, and what it does.
* `Replaceable` — all that it takes to replace a file, whatever is to be in it.
* `Replaceable.replace` — the file is replaced, and can be replaced again.
* `replaceable_of_replace`, `replace_again` — once some content has gone through, any other will.
-/

namespace AccessConsole

open FileSystem

theorem runCalls_append (cs ds : List FileCall) (fs : FileSystem) :
    runCalls (cs ++ ds) fs =
      match runCalls cs fs with
      | (.ok _, fs) => runCalls ds fs
      | (.error e, fs) => (.error e, fs) := by
  induction cs generalizing fs with
  | nil => rfl
  | cons c cs ih =>
    simp only [List.cons_append, runCalls]
    cases c.run fs with
    | error e => rfl
    | ok fs' => exact ih fs'

theorem runCalls_append_of_ok {cs ds : List FileCall} {fs fs' : FileSystem}
    (h : runCalls cs fs = (.ok (), fs')) : runCalls (cs ++ ds) fs = runCalls ds fs' := by
  rw [runCalls_append, h]

/-- Calls that succeed did so one after the other. -/
theorem runCalls_append_ok {cs ds : List FileCall} {fs fs' : FileSystem}
    (h : runCalls (cs ++ ds) fs = (.ok (), fs')) :
    ∃ between, runCalls cs fs = (.ok (), between) ∧ runCalls ds between = (.ok (), fs') := by
  rw [runCalls_append] at h
  rcases hcs : runCalls cs fs with ⟨result, between⟩
  rw [hcs] at h
  cases result with
  | error e => cases h
  | ok _ => exact ⟨between, rfl, h⟩

theorem runCalls_cons_ok {c : FileCall} {cs : List FileCall} {fs fs' : FileSystem}
    (h : runCalls (c :: cs) fs = (.ok (), fs')) :
    ∃ between, c.run fs = .ok between ∧ runCalls cs between = (.ok (), fs') := by
  simp only [runCalls] at h
  cases hc : c.run fs with
  | error e =>
    rw [hc] at h
    cases h
  | ok between =>
    rw [hc] at h
    exact ⟨between, rfl, h⟩

theorem runCalls_cons_of_ok {c : FileCall} {cs : List FileCall} {fs between : FileSystem}
    (h : c.run fs = .ok between) : runCalls (c :: cs) fs = runCalls cs between := by
  simp only [runCalls, h]

namespace FileCall

section

variable {fs fs' : FileSystem} {path : Path} {place : Location}

/-! ## Directories -/

/-- A directory is made where nothing is, and nothing is done where one is. -/
theorem makeDirectory_eq (h : (makeDirectory path).run fs = .ok fs') :
    ∃ l, fs.locate path = .ok l ∧ (fs.IsDirectory l ∧ fs' = fs ∨
      fs.node? l = none ∧ ∃ permissions, fs' = fs.put l (.directory permissions)) := by
  unfold run at h
  cases hl : fs.locate path with
  | error e => simp [hl, bind, Except.bind] at h
  | ok l =>
    simp only [hl, bind, Except.bind] at h
    refine ⟨l, rfl, ?_⟩
    cases hn : fs.node? l with
    | none =>
      simp only [hn, Except.ok.injEq] at h
      exact .inr ⟨rfl, _, h.symm⟩
    | some node =>
      cases node with
      | directory permissions =>
        simp only [hn, Except.ok.injEq] at h
        exact .inl ⟨⟨permissions, hn⟩, h.symm⟩
      | file content permissions => simp [hn] at h

/-- After a directory was made, it is there, and so is all that was there before. -/
theorem makeDirectory_ok (h : (makeDirectory path).run fs = .ok fs') :
    Extends fs fs' ∧ ∃ l, fs.locate path = .ok l ∧ fs'.IsDirectory l := by
  obtain ⟨l, hl, ⟨hdirectory, rfl⟩ | ⟨hn, permissions, rfl⟩⟩ := makeDirectory_eq h
  · exact ⟨.refl _, l, hl, hdirectory⟩
  · have hno : ¬fs.IsDirectory l := not_isDirectory_of_none hn
    exact ⟨extends_put hno _, l, hl, _, node?_put_self fs (ne_nil_of_not_isDirectory hno) _⟩

theorem makeDirectory_of_directory (hl : fs.locate path = .ok place) (hd : fs.IsDirectory place) :
    (makeDirectory path).run fs = .ok fs := by
  obtain ⟨permissions, hn⟩ := hd
  simp [run, hl, hn, bind, Except.bind]

theorem toDirectory_of_mem_prefixes {q : Path} (h : q ∈ path.prefixes) : q.toDirectory = false := by
  have := (List.mem_filter.1 h).2
  simpa using this

/-- After directories were made, they are all there. -/
theorem makeDirectories_ok {qs : List Path} (hqs : ∀ q ∈ qs, q.toDirectory = false)
    (h : runCalls (qs.map makeDirectory) fs = (.ok (), fs')) :
    Extends fs fs' ∧ ∀ q ∈ qs, ∃ l, fs'.locate q = .ok l ∧ fs'.IsDirectory l := by
  induction qs generalizing fs with
  | nil =>
    cases h
    exact ⟨.refl _, by simp⟩
  | cons q qs ih =>
    obtain ⟨between, hq, hrest⟩ := runCalls_cons_ok h
    obtain ⟨hext, l, hl, hd⟩ := makeDirectory_ok hq
    obtain ⟨hext', hall⟩ := ih (fun q' h' => hqs q' (List.mem_cons_of_mem _ h')) hrest
    refine ⟨hext.trans hext', ?_⟩
    intro q' hq'
    obtain rfl | hin := List.mem_cons.1 hq'
    · have hl' := (hext.trans hext').locate (hqs q' List.mem_cons_self) hl
      exact ⟨l, hl', hext'.directory hd⟩
    · exact hall q' hin

/-- Where the directories are there already, nothing happens. -/
theorem makeDirectories_of_directories {qs : List Path}
    (h : ∀ q ∈ qs, ∃ l, fs.locate q = .ok l ∧ fs.IsDirectory l) :
    runCalls (qs.map makeDirectory) fs = (.ok (), fs) := by
  induction qs with
  | nil => rfl
  | cons q qs ih =>
    obtain ⟨l, hl, hd⟩ := h q List.mem_cons_self
    rw [List.map_cons, runCalls_cons_of_ok (makeDirectory_of_directory hl hd)]
    exact ih fun q' hq' => h q' (List.mem_cons_of_mem _ hq')

/-! ## Files -/

/-- A file can be made only where a path may lead to one. -/
theorem create_ok (h : (create path).run fs = .ok fs') :
    path.toDirectory = false ∧ ∃ l, fs.locate path = .ok l ∧ ¬fs.IsDirectory l := by
  unfold run at h
  cases hl : fs.locate path with
  | error e => simp [hl, bind, Except.bind] at h
  | ok l =>
    simp only [hl, bind, Except.bind] at h
    cases hn : fs.node? l with
    | none =>
      simp only [hn] at h
      split_ifs at h with hd
      exact ⟨by simpa using hd, l, rfl, not_isDirectory_of_none hn⟩
    | some node =>
      cases node with
      | directory permissions => simp [hn] at h
      | file content permissions =>
        exact ⟨toDirectory_of_located hl hn, l, rfl, not_isDirectory_of_file hn⟩

theorem create_eq (hfile : path.toDirectory = false) (hl : fs.locate path = .ok place)
    (hfree : ¬fs.IsDirectory place) :
    ∃ permissions, (create path).run fs = .ok (fs.put place (.file [] permissions)) := by
  obtain hn | ⟨content, permissions, hn⟩ := node?_of_not_isDirectory hfree
  · exact ⟨newFile &&& ~~~fs.umask, by simp [run, hl, hn, hfile, bind, Except.bind]⟩
  · exact ⟨permissions, by simp [run, hl, hn, bind, Except.bind]⟩

theorem append_eq {content bytes : Bytes} {permissions : Permissions}
    (hl : fs.locate path = .ok place) (hn : fs.node? place = some (.file content permissions)) :
    (append path bytes).run fs = .ok (fs.put place (.file (content ++ bytes) permissions)) := by
  simp [run, hl, hn, bind, Except.bind]

theorem restrict_eq {content : Bytes} {permissions permissions' : Permissions}
    (hl : fs.locate path = .ok place) (hn : fs.node? place = some (.file content permissions)) :
    (restrict path permissions').run fs = .ok (fs.put place (.file content permissions')) := by
  simp [run, hl, hn, bind, Except.bind]

theorem rename_eq {target : Path} {goal : Location} {content : Bytes} {permissions : Permissions}
    (hl : fs.locate path = .ok place) (hn : fs.node? place = some (.file content permissions))
    (hfile : target.toDirectory = false) (hgoal : fs.locate target = .ok goal)
    (hfree : ¬fs.IsDirectory goal) :
    (rename path target).run fs = .ok ((fs.erase place).put goal (.file content permissions)) := by
  obtain hg | ⟨content', permissions', hg⟩ := node?_of_not_isDirectory hfree <;>
    simp [run, hl, hn, hgoal, hg, hfile, bind, Except.bind]

theorem create_same (h : (create path).run fs = .ok fs') : SameDirectories fs fs' := by
  obtain ⟨hfile, l, hl, hfree⟩ := create_ok h
  obtain ⟨permissions, hrun⟩ := create_eq hfile hl hfree
  obtain rfl := Except.ok.inj (h.symm.trans hrun)
  exact sameDirectories_put_file hfree [] permissions

theorem append_ok {bytes : Bytes} (h : (append path bytes).run fs = .ok fs') :
    ∃ l content permissions, fs.locate path = .ok l ∧
      fs.node? l = some (.file content permissions) ∧
      fs' = fs.put l (.file (content ++ bytes) permissions) := by
  unfold run at h
  cases hl : fs.locate path with
  | error e => simp [hl, bind, Except.bind] at h
  | ok l =>
    simp only [hl, bind, Except.bind] at h
    split at h
    · cases h
    · rename_i hn
      cases h
      exact ⟨l, _, _, rfl, hn, rfl⟩
    · cases h

theorem append_same {bytes : Bytes} (h : (append path bytes).run fs = .ok fs') :
    SameDirectories fs fs' := by
  obtain ⟨l, content, permissions, -, hn, rfl⟩ := append_ok h
  exact sameDirectories_put_file (not_isDirectory_of_file hn) _ _

theorem restrict_ok {permissions : Permissions}
    (h : (restrict path permissions).run fs = .ok fs') :
    ∃ l old node, fs.locate path = .ok l ∧ fs.node? l = some old ∧ SameKind old node ∧
      fs' = fs.put l node := by
  unfold run at h
  cases hl : fs.locate path with
  | error e => simp [hl, bind, Except.bind] at h
  | ok l =>
    simp only [hl, bind, Except.bind] at h
    split at h
    · rename_i hn
      cases h
      exact ⟨l, _, _, rfl, hn, .directory _ _, rfl⟩
    · rename_i hn
      cases h
      exact ⟨l, _, _, rfl, hn, .file _ _ _ _, rfl⟩
    · cases h

theorem restrict_same {permissions : Permissions}
    (h : (restrict path permissions).run fs = .ok fs') : SameDirectories fs fs' := by
  obtain ⟨l, old, node, -, hn, hkind, rfl⟩ := restrict_ok h
  cases hkind with
  | directory => exact sameDirectories_put_directory ⟨_, hn⟩ _
  | file => exact sameDirectories_put_file (not_isDirectory_of_file hn) _ _

theorem rename_ok {target : Path} (h : (rename path target).run fs = .ok fs') :
    target.toDirectory = false ∧ ∃ goal, fs.locate target = .ok goal ∧ ¬fs.IsDirectory goal ∧
      ∃ place content permissions, fs' = (fs.erase place).put goal (.file content permissions) := by
  unfold run at h
  cases hl : fs.locate path with
  | error e => simp [hl, bind, Except.bind] at h
  | ok l =>
    cases hg : fs.locate target with
    | error e => simp [hl, hg, bind, Except.bind] at h
    | ok goal =>
      simp only [hl, hg, bind, Except.bind] at h
      split at h
      · cases h
      · cases h
      · cases h
      · rename_i hno
        split_ifs at h with hd
        cases h
        refine ⟨by simpa using hd, goal, rfl, ?_, l, _, _, rfl⟩
        rintro ⟨p, hp⟩
        exact hno p hp

end

/-! ## Replacing -/

/-- All that it takes to replace the file at `goal` by way of the place beside it. -/
structure Replaceable (fs : FileSystem) (path beside : Path) (place goal : Location) : Prop where
  parents {q : Path} : q ∈ path.prefixes → ∃ l, fs.locate q = .ok l ∧ fs.IsDirectory l
  besideFile : beside.toDirectory = false
  besideLocated : fs.locate beside = .ok place
  besideFree : ¬fs.IsDirectory place
  file : path.toDirectory = false
  located : fs.locate path = .ok goal
  free : ¬fs.IsDirectory goal

namespace Replaceable

variable {fs fs' : FileSystem} {path beside : Path} {place goal : Location}

/-- Nothing but the directories matters. -/
theorem of_same (h : Replaceable fs path beside place goal) (hsame : SameDirectories fs fs') :
    Replaceable fs' path beside place goal where
  parents hq :=
    let ⟨l, hl, hd⟩ := h.parents hq
    ⟨l, hsame.forth.locate (toDirectory_of_mem_prefixes hq) hl, hsame.forth.directory hd⟩
  besideFile := h.besideFile
  besideLocated := hsame.forth.locate h.besideFile h.besideLocated
  besideFree := mt hsame.isDirectory_iff.1 h.besideFree
  file := h.file
  located := hsame.forth.locate h.file h.located
  free := mt hsame.isDirectory_iff.1 h.free

/-- The file is replaced, and can be replaced again. -/
theorem replace (h : Replaceable fs path beside place goal) (content : Bytes) :
    ∃ fs', runCalls (FileCall.replace path beside content) fs = (.ok (), fs') ∧
      fs'.read path = .ok content ∧ Replaceable fs' path beside place goal := by
  have hne : place ≠ [] := ne_nil_of_not_isDirectory h.besideFree
  obtain ⟨permissions, hcreate⟩ := create_eq h.besideFile h.besideLocated h.besideFree
  -- The file beside is made, filled and closed to others.
  let made := fs.put place (.file [] permissions)
  have hmade : Replaceable made path beside place goal :=
    h.of_same (sameDirectories_put_file h.besideFree _ _)
  have happend : (append beside content).run made =
      .ok (made.put place (.file content permissions)) :=
    append_eq hmade.besideLocated (node?_put_self fs hne _)
  let filled := made.put place (.file content permissions)
  have hfilled : Replaceable filled path beside place goal :=
    hmade.of_same (sameDirectories_put_file hmade.besideFree _ _)
  have hrestrict : (restrict beside ownerOnly).run filled =
      .ok (filled.put place (.file content ownerOnly)) :=
    restrict_eq hfilled.besideLocated (node?_put_self made hne _)
  let closed := filled.put place (.file content ownerOnly)
  have hclosed : Replaceable closed path beside place goal :=
    hfilled.of_same (sameDirectories_put_file hfilled.besideFree _ _)
  -- It takes the place of the file.
  have hrename : (rename beside path).run closed =
      .ok ((closed.erase place).put goal (.file content ownerOnly)) :=
    rename_eq hclosed.besideLocated (node?_put_self filled hne _) hclosed.file hclosed.located
      hclosed.free
  have herased : Replaceable (closed.erase place) path beside place goal :=
    hclosed.of_same (sameDirectories_erase hclosed.besideFree)
  have hdone : Replaceable ((closed.erase place).put goal (.file content ownerOnly)) path beside
      place goal := herased.of_same (sameDirectories_put_file herased.free _ _)
  have hcalls : runCalls (FileCall.replace path beside content) fs =
      (.ok (), (closed.erase place).put goal (.file content ownerOnly)) := by
    unfold FileCall.replace makeParents write
    rw [List.append_assoc,
      runCalls_append_of_ok (makeDirectories_of_directories fun _ => h.parents),
      List.cons_append, runCalls_cons_of_ok hcreate, List.cons_append, runCalls_cons_of_ok happend,
      List.nil_append, runCalls_cons_of_ok hrestrict, runCalls_cons_of_ok hrename]
    rfl
  exact ⟨_, hcalls, read_of_node? hdone.located
    (node?_put_self _ (ne_nil_of_not_isDirectory h.free) _), hdone⟩

end Replaceable

/-- Where some content has gone through, the directories above the file can be made, and then any
other content will go through. -/
theorem replaceable_of_replace {fs fs' : FileSystem} {path beside : Path} {content : Bytes}
    (h : runCalls (replace path beside content) fs = (.ok (), fs')) :
    ∃ above place goal, runCalls (makeParents path) fs = (.ok (), above) ∧
      Replaceable above path beside place goal := by
  unfold replace at h
  rw [List.append_assoc] at h
  obtain ⟨above, hparents, hfile⟩ := runCalls_append_ok h
  obtain ⟨-, hall⟩ := makeDirectories_ok (fun _ => toDirectory_of_mem_prefixes) hparents
  unfold write at hfile
  obtain ⟨made, hcreate, hfile⟩ := runCalls_cons_ok hfile
  obtain ⟨filled, happend, hfile⟩ := runCalls_cons_ok hfile
  obtain ⟨closed, hrestrict, hfile⟩ := runCalls_cons_ok hfile
  obtain ⟨done, hrename, -⟩ := runCalls_cons_ok hfile
  obtain ⟨hbesideFile, place, hplace, hplaceFree⟩ := create_ok hcreate
  obtain ⟨hfilePath, goal, hgoal, hgoalFree, -⟩ := rename_ok hrename
  -- The calls on the file beside change no directory, so the path led there from the start.
  have hsame : SameDirectories above closed :=
    (create_same hcreate).trans ((append_same happend).trans (restrict_same hrestrict))
  exact ⟨above, place, goal, hparents, fun hq => hall _ hq, hbesideFile, hplace, hplaceFree,
    hfilePath, hsame.back.locate hfilePath hgoal, mt hsame.isDirectory_iff.2 hgoalFree⟩

/-- Where some content would go through, any other goes through as well, and is then read, and it
would go through again. -/
theorem replace_again {fs fs' : FileSystem} {path beside : Path} {content : Bytes}
    (h : runCalls (replace path beside content) fs = (.ok (), fs')) (other : Bytes) :
    ∃ done, runCalls (replace path beside other) fs = (.ok (), done) ∧ done.read path = .ok other ∧
      ∃ next, runCalls (replace path beside other) done = (.ok (), next) := by
  obtain ⟨above, place, goal, hparents, hready⟩ := replaceable_of_replace h
  obtain ⟨done, hdone, hread, hagain⟩ := hready.replace other
  obtain ⟨next, hnext, -, -⟩ := hagain.replace other
  refine ⟨done, ?_, hread, next, hnext⟩
  -- Once the directories above the file are there, making them makes no difference.
  have habove : runCalls (makeParents path) above = (.ok (), above) :=
    makeDirectories_of_directories fun _ => hready.parents
  unfold replace at hdone ⊢
  rw [List.append_assoc, runCalls_append_of_ok habove] at hdone
  rw [List.append_assoc, runCalls_append_of_ok hparents, hdone]

end FileCall

end AccessConsole
