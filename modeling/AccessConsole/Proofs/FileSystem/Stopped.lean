import AccessConsole.Proofs.FileSystem.Beside
import AccessConsole.Proofs.FileSystem.Replace

/-!
# Calls that are not all made

A process may stop between two calls, and while it puts bytes at the end of a file. A call may
also fail, and then no other is made.

* `Stopped` — what calls leave behind that are stopped at any time.
* `FileCall.MakesReady` — the calls of a replacement up to the one that puts the file in its place.
* `FileSystem.MadeReady` — what they change: directories are made above a file, and another file
  beside it.
* `FileCall.stopped_replace` — what a replacement leaves behind that is stopped before its end.
* `FileSystem.MadeReady.read` — it cannot be told by reading the file.
-/

namespace AccessConsole

open FileSystem

/-! ## Stops -/

/-- What calls leave behind that are stopped at some time: the calls that have not been made, and
the file system. -/
inductive Stopped : List FileCall → FileSystem → List FileCall → FileSystem → Prop
  /-- The next call is not made. -/
  | between (calls : List FileCall) (fs : FileSystem) : Stopped calls fs calls fs
  /-- Bytes are being put at the end of a file, and the first of them are there. -/
  | torn {path : Path} {bytes part : Bytes} {calls : List FileCall} {fs fs' : FileSystem} :
    part <+: bytes → (FileCall.append path part).run fs = .ok fs' →
    Stopped (.append path bytes :: calls) fs (.append path bytes :: calls) fs'
  /-- A call is made, and it goes on with the others. -/
  | later {call : FileCall} {calls rest : List FileCall} {fs fs' fs'' : FileSystem} :
    call.run fs = .ok fs' → Stopped calls fs' rest fs'' → Stopped (call :: calls) fs rest fs''

/-- Calls that succeed are all made. -/
theorem stopped_of_runCalls_ok {calls : List FileCall} {fs fs' : FileSystem}
    (h : runCalls calls fs = (.ok (), fs')) : Stopped calls fs [] fs' := by
  induction calls generalizing fs with
  | nil =>
    cases h
    exact .between [] _
  | cons call calls ih =>
    obtain ⟨between, hcall, hcalls⟩ := runCalls_cons_ok h
    exact .later hcall (ih hcalls)

/-- Calls of which one fails are stopped before it. -/
theorem stopped_of_runCalls_error {calls : List FileCall} {fs fs' : FileSystem} {e : FileError}
    (h : runCalls calls fs = (.error e, fs')) : ∃ rest, rest ≠ [] ∧ Stopped calls fs rest fs' := by
  induction calls generalizing fs with
  | nil => cases h
  | cons call calls ih =>
    unfold runCalls at h
    cases hcall : call.run fs with
    | error e' =>
      rw [hcall] at h
      cases h
      exact ⟨_, List.cons_ne_nil _ _, .between _ _⟩
    | ok between =>
      rw [hcall] at h
      obtain ⟨rest, hne, hstopped⟩ := ih h
      exact ⟨rest, hne, .later hcall hstopped⟩

namespace Stopped

variable {calls further rest : List FileCall} {fs fs' : FileSystem}

/-- Where all calls are made, they have succeeded. -/
theorem runCalls_ok (h : Stopped calls fs [] fs') : runCalls calls fs = (.ok (), fs') := by
  generalize hrest : ([] : List FileCall) = rest at h
  induction h with
  | between =>
    subst hrest
    rfl
  | torn => cases hrest
  | later hcall _ ih =>
    rw [runCalls_cons_of_ok hcall]
    exact ih hrest

/-- Calls are stopped early or late. -/
theorem append (h : Stopped (calls ++ further) fs rest fs') :
    (∃ early, rest = early ++ further ∧ Stopped calls fs early fs') ∨
      ∃ between, Stopped calls fs [] between ∧ Stopped further between rest fs' := by
  induction calls generalizing fs with
  | nil => exact .inr ⟨fs, .between [] fs, h⟩
  | cons call calls ih =>
    cases h with
    | between => exact .inl ⟨call :: calls, rfl, .between _ _⟩
    | torn hpart hrun => exact .inl ⟨_, rfl, .torn hpart hrun⟩
    | later hcall hrest =>
      obtain ⟨early, rfl, hstopped⟩ | ⟨between, hall, hfurther⟩ := ih hrest
      · exact .inl ⟨early, rfl, .later hcall hstopped⟩
      · exact .inr ⟨between, .later hcall hall, hfurther⟩

/-- After calls that were all made, others are stopped. -/
theorem followed {between : FileSystem} (h : Stopped calls fs [] between)
    (h' : Stopped further between rest fs') : Stopped (calls ++ further) fs rest fs' := by
  generalize hnil : ([] : List FileCall) = left at h
  induction h with
  | between =>
    subst hnil
    exact h'
  | torn => cases hnil
  | later hcall _ ih => exact .later hcall (ih h' hnil)

/-- What all calls of a kind `K` keep holds whenever such calls are stopped. -/
theorem keeps {P : FileSystem → Prop} {K : FileCall → Prop}
    (hkind : ∀ path bytes part, K (.append path bytes) → K (.append path part))
    (hkeeps : ∀ call fs fs', K call → call.run fs = .ok fs' → P fs → P fs')
    (h : Stopped calls fs rest fs') (hcalls : ∀ call ∈ calls, K call) (hfs : P fs) : P fs' := by
  induction h with
  | between => exact hfs
  | torn hpart hrun =>
    exact hkeeps _ _ _ (hkind _ _ _ (hcalls _ List.mem_cons_self)) hrun hfs
  | later hcall _ ih =>
    refine ih (fun c hc => hcalls c (List.mem_cons_of_mem _ hc)) ?_
    exact hkeeps _ _ _ (hcalls _ List.mem_cons_self) hcall hfs

/-- No call changes the working directory. -/
theorem workingDirectory (h : Stopped calls fs rest fs') :
    fs'.workingDirectory = fs.workingDirectory := by
  refine h.keeps (P := fun g => g.workingDirectory = fs.workingDirectory) (K := fun _ => True)
    (fun _ _ _ _ => trivial) (fun call g g' _ hrun hg => ?_) (fun _ _ => trivial) rfl
  refine Eq.trans ?_ hg
  cases call with
  | makeDirectory path => exact (FileCall.makeDirectory_ok hrun).1.workingDirectory
  | create path => exact (FileCall.create_same hrun).forth.workingDirectory
  | append path bytes => exact (FileCall.append_same hrun).forth.workingDirectory
  | restrict path permissions => exact (FileCall.restrict_same hrun).forth.workingDirectory
  | rename source target =>
    obtain ⟨-, goal, -, -, place, content, permissions, rfl⟩ := FileCall.rename_ok hrun
    rfl

end Stopped

/-! ## What is made before the file is replaced -/

namespace FileSystem

/-- Directories were made above a file where nothing was, and another file at a place. -/
structure MadeReady (fs fs' : FileSystem) (above : List Location) (place : Location) : Prop
    extends KeepsKinds fs fs' where
  elsewhere {k : Location} : k ≠ place →
    fs'.node? k = fs.node? k ∨ k ∈ above ∧ fs.node? k = none ∧ fs'.IsDirectory k

namespace MadeReady

variable {fs fs' fs'' : FileSystem} {above : List Location} {place : Location}

theorem refl (fs : FileSystem) (above : List Location) (place : Location) :
    MadeReady fs fs above place := ⟨.refl fs, fun _ => .inl rfl⟩

theorem trans (h : MadeReady fs fs' above place) (h' : MadeReady fs' fs'' above place) :
    MadeReady fs fs'' above place := by
  refine ⟨h.toKeepsKinds.trans h'.toKeepsKinds, fun {k} hk => ?_⟩
  obtain hsame | ⟨habove, hnone, hdirectory⟩ := h.elsewhere hk
  · obtain hsame' | ⟨habove', hnone', hdirectory'⟩ := h'.elsewhere hk
    · exact .inl (hsame'.trans hsame)
    · exact .inr ⟨habove', hsame.symm.trans hnone', hdirectory'⟩
  · exact .inr ⟨habove, hnone, h'.directory hdirectory⟩

/-- The content at another place stays. -/
theorem content? (h : MadeReady fs fs' above place) {k : Location} (hk : k ≠ place) :
    fs'.content? k = fs.content? k := by
  unfold FileSystem.content?
  obtain hsame | ⟨-, hnone, permissions, hdirectory⟩ := h.elsewhere hk
  · rw [hsame]
  · rw [hnone, hdirectory]

end MadeReady

end FileSystem

namespace FileCall

variable {fs fs' : FileSystem} {path beside : Path} {content : Bytes}

/-- The calls of a replacement up to the one that puts the file in its place. -/
inductive MakesReady (path beside : Path) : FileCall → Prop
  | makeDirectory {q : Path} : q ∈ path.prefixes → MakesReady path beside (.makeDirectory q)
  | create : MakesReady path beside (.create beside)
  | append (bytes : Bytes) : MakesReady path beside (.append beside bytes)
  | restrict (permissions : Permissions) : MakesReady path beside (.restrict beside permissions)

/-- What such a call does, if it does anything: it makes a directory where nothing is, or puts
something beside the path, in the place of nothing or of its like. -/
inductive PutsReady (fs : FileSystem) (path beside : Path) : FileSystem → Prop
  | nothing : PutsReady fs path beside fs
  | above {q : Path} {place : Location} {permissions : Permissions} : q ∈ path.prefixes →
    fs.locate q = .ok place → fs.node? place = none →
    PutsReady fs path beside (fs.put place (.directory permissions))
  | beside {place : Location} {node : Node} : fs.locate beside = .ok place →
    (∀ old, fs.node? place = some old → SameKind old node) →
    PutsReady fs path beside (fs.put place node)

theorem MakesReady.run {call : FileCall} (h : MakesReady path beside call)
    (hrun : call.run fs = .ok fs') : PutsReady fs path beside fs' := by
  have hlike : ∀ {place old node}, fs.node? place = some old → SameKind old node →
      ∀ old', fs.node? place = some old' → SameKind old' node := by
    intro place old node hold hkind old' hold'
    rwa [Option.some.inj (hold'.symm.trans hold)]
  cases h with
  | makeDirectory hq =>
    obtain ⟨place, hlocate, ⟨-, rfl⟩ | ⟨hnone, permissions, rfl⟩⟩ := makeDirectory_eq hrun
    · exact .nothing
    · exact .above hq hlocate hnone
  | create =>
    obtain ⟨hfile, place, hlocate, hfree⟩ := create_ok hrun
    obtain ⟨permissions, hput⟩ := create_eq hfile hlocate hfree
    obtain rfl := Except.ok.inj (hrun.symm.trans hput)
    refine .beside hlocate fun old hold => ?_
    cases old with
    | directory permissions => exact absurd ⟨permissions, hold⟩ hfree
    | file content permissions => exact .file _ _ _ _
  | append bytes =>
    obtain ⟨place, content, permissions, hlocate, hfile, rfl⟩ := append_ok hrun
    exact .beside hlocate (hlike hfile (.file _ _ _ _))
  | restrict permissions =>
    obtain ⟨place, old, node, hlocate, hold, hkind, rfl⟩ := restrict_ok hrun
    exact .beside hlocate (hlike hold hkind)

namespace PutsReady

theorem madeReady (h : PutsReady fs path beside fs') :
    MadeReady fs fs' (path.prefixes.map fs.goal) (fs.goal beside) := by
  cases h with
  | nothing => exact .refl _ _ _
  | @above q place permissions hq hlocate hnone =>
    refine ⟨keepsKinds_put fun old hold => ?_, fun {k} _ => ?_⟩
    · rw [hnone] at hold
      cases hold
    · obtain rfl | hne := eq_or_ne k place
      · have hmem : k ∈ path.prefixes.map fs.goal :=
          List.mem_map.2 ⟨q, hq, goal_of_locate hlocate⟩
        have hnil := ne_nil_of_not_isDirectory (not_isDirectory_of_none hnone)
        exact .inr ⟨hmem, hnone, permissions, node?_put_self fs hnil _⟩
      · exact .inl (node?_put_of_ne fs hne _)
  | beside hlocate hkind =>
    refine ⟨keepsKinds_put hkind, fun {k} hk => .inl ?_⟩
    rw [goal_of_locate hlocate] at hk
    exact node?_put_of_ne fs hk _

/-- What is put somewhere is put into a directory of the tree. -/
theorem tree (h : PutsReady fs path beside fs') (hbeside : Beside path beside) (htree : fs.Tree) :
    fs'.Tree := by
  cases h with
  | nothing => exact htree
  | above hq hlocate hnone =>
    obtain ⟨-, -, steps, last, -, -, hsteps⟩ :=
      Path.steps_eq_concat (toDirectory_of_mem_prefixes hq)
    have hwalk := walk_of_locate hlocate
    rw [hsteps] at hwalk
    obtain ⟨name, parent, -, rfl, hparent⟩ :=
      htree.last_step hwalk (not_isDirectory_of_none hnone)
    exact htree.put_new hparent hnone _
  | @beside place node hlocate hkind =>
    refine htree.put ?_ hkind
    cases hold : fs.node? place with
    | some old => exact htree.parent (by simp [hold])
    | none =>
      obtain ⟨name, parent, rfl, hparent, -⟩ :=
        hbeside.located htree hlocate (not_isDirectory_of_none hold)
      exact fun _ => hparent

/-- In a tree nothing new is put above the place to which the path leads, but directories. -/
theorem new_file (h : PutsReady fs path beside fs') (hbeside : Beside path beside) (htree : fs.Tree)
    {k : Location} (hk : k.length < (fs.goal path).length) (hnone : fs.node? k = none)
    (content : Bytes) (permissions : Permissions) :
    fs'.node? k ≠ some (.file content permissions) := by
  cases h with
  | nothing => simp [hnone]
  | @above q place permissions hq hlocate hplace =>
    obtain rfl | hne := eq_or_ne k place
    · have hnil := ne_nil_of_not_isDirectory (not_isDirectory_of_none hplace)
      simp [node?_put_self fs hnil]
    · simp [node?_put_of_ne fs hne, hnone]
  | @beside place node hlocate hkind =>
    have hne : k ≠ place := by
      rintro rfl
      obtain ⟨name, parent, -, -, hlength⟩ :=
        hbeside.located htree hlocate (not_isDirectory_of_none hnone)
      omega
    simp [node?_put_of_ne fs hne, hnone]

end PutsReady

/-! ## Stopped replacements -/

/-- The calls of a replacement but the last. -/
def readyCalls (path beside : Path) (content : Bytes) : List FileCall :=
  makeParents path ++ write beside content ++ [.restrict beside ownerOnly]

theorem replace_eq (path beside : Path) (content : Bytes) :
    replace path beside content = readyCalls path beside content ++ [.rename beside path] := by
  simp [replace, readyCalls]

theorem makesReady_of_mem {call : FileCall} (h : call ∈ readyCalls path beside content) :
    MakesReady path beside call := by
  simp only [readyCalls, makeParents, write, List.mem_append, List.mem_map, List.mem_cons,
    List.not_mem_nil, or_false] at h
  obtain (⟨q, hq, rfl⟩ | rfl | rfl) | rfl := h
  · exact .makeDirectory hq
  · exact .create
  · exact .append content
  · exact .restrict ownerOnly

/-- What holds while all is made ready: nothing else is touched, and in a tree no new file gets
above the place to which the path leads. -/
structure Ready (fs : FileSystem) (path beside : Path) (fs' : FileSystem) : Prop where
  made : MadeReady fs fs' (path.prefixes.map fs.goal) (fs.goal beside)
  tree : fs.Tree → fs'.Tree
  new_file : fs.Tree → ∀ k, k.length < (fs.goal path).length → fs.node? k = none →
    ∀ content permissions, fs'.node? k ≠ some (.file content permissions)

theorem Ready.refl (fs : FileSystem) (path beside : Path) : Ready fs path beside fs :=
  ⟨.refl _ _ _, id, fun _ _ _ hnone content permissions => by simp [hnone]⟩

theorem Ready.run {fs'' : FileSystem} (h : Ready fs path beside fs') (hbeside : Beside path beside)
    {call : FileCall} (hcall : MakesReady path beside call) (hrun : call.run fs' = .ok fs'') :
    Ready fs path beside fs'' := by
  have hputs := hcall.run hrun
  have hgoal : ∀ q, fs'.goal q = fs.goal q := goal_congr h.made.workingDirectory
  have hmade : MadeReady fs' fs'' (path.prefixes.map fs.goal) (fs.goal beside) := by
    have := hputs.madeReady
    rwa [List.map_congr_left fun q _ => hgoal q, hgoal] at this
  refine ⟨h.made.trans hmade, fun htree => hputs.tree hbeside (h.tree htree), ?_⟩
  intro htree k hk hnone content permissions hfile
  cases hn : fs'.node? k with
  | none =>
    rw [← hgoal] at hk
    exact hputs.new_file hbeside (h.tree htree) hk hn content permissions hfile
  | some node =>
    cases node with
    | file => exact h.new_file htree k hk hnone _ _ hn
    | directory permissions' =>
      obtain ⟨_, hdirectory⟩ := hmade.directory ⟨permissions', hn⟩
      rw [hdirectory] at hfile
      cases hfile

/-- A replacement that is stopped before its end has made all ready, or some of it. -/
theorem stopped_replace (hbeside : Beside path beside) {rest : List FileCall}
    (h : Stopped (replace path beside content) fs rest fs') (hrest : rest ≠ []) :
    Ready fs path beside fs' := by
  have hready : ∀ {early fs'}, Stopped (readyCalls path beside content) fs early fs' →
      Ready fs path beside fs' := fun hstopped =>
    hstopped.keeps (K := MakesReady path beside)
      (fun path' bytes part hk => by cases hk with | append => exact .append part)
      (fun call fs fs' hcall hrun hfs => hfs.run hbeside hcall hrun)
      (fun call hmem => makesReady_of_mem hmem) (.refl fs path beside)
  rw [replace_eq] at h
  obtain ⟨early, -, hstopped⟩ | ⟨between, hall, hrename⟩ := h.append
  · exact hready hstopped
  · -- Nothing but the last call is left, so it has not been made.
    cases hrename with
    | between => exact hready hall
    | later hrun hend =>
      cases hend
      exact absurd rfl hrest

/-- What is made ready cannot be told by reading the file. -/
theorem Ready.read (h : Ready fs path beside fs') (hbeside : Beside path beside) (htree : fs.Tree)
    (hway : fs.GoesDown path) : fs'.read path = fs.read path := by
  refine h.made.toKeepsKinds.read htree (fun _ => hway) ?_ (h.new_file htree)
  obtain hsame | ⟨hmem, hnone, -⟩ := h.made.elsewhere (hbeside.goal_ne fs)
  · exact hsame
  · -- A directory that was made stands above the file.
    obtain ⟨q, hq, hgoal⟩ := List.mem_map.1 hmem
    obtain hdirectory | hlength := hway.prefix_goal hq
    · rw [hgoal] at hdirectory
      exact absurd hdirectory (not_isDirectory_of_none hnone)
    · rw [hgoal] at hlength
      exact absurd hlength (Nat.lt_irrefl _)

end FileCall

end AccessConsole
