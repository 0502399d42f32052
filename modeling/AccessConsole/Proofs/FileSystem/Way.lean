import AccessConsole.Proofs.FileSystem.Place

/-!
# The way of a path

* `FileSystem.goal` — the place to which the steps of a path lead, whatever is on the way.
* `FileSystem.Tree` — everything stands in a directory.
* `FileSystem.KeepsKinds` — directories stay directories, and files stay files.
* `FileSystem.GoesDown` — from the last place that can be reached on its way, a path only goes down.
* `FileSystem.KeepsKinds.read` — a file system that keeps the kinds of another one, and has no new
  file on the way of a path, reads the same there.
-/

namespace AccessConsole

/-- The place after a step, whatever is there. -/
def Step.move (here : Location) : Step → Location
  | .up => here.tail
  | .down name => name :: here

namespace FileSystem

variable {fs fs' : FileSystem}

/-- Where the way of a path begins. -/
def origin (fs : FileSystem) (path : Path) : Location :=
  if path.absolute then [] else fs.workingDirectory

/-- The place to which the steps of a path lead, whatever is on the way. -/
def goal (fs : FileSystem) (path : Path) : Location :=
  path.steps.foldl Step.move (fs.origin path)

theorem origin_congr {path q : Path} (h : q.absolute = path.absolute) :
    fs.origin q = fs.origin path := by
  unfold origin
  rw [h]

theorem goal_congr (h : fs'.workingDirectory = fs.workingDirectory) (path : Path) :
    fs'.goal path = fs.goal path := by
  unfold goal origin
  rw [h]

/-- The content of the file at a place, if there is one. -/
def content? (fs : FileSystem) (place : Location) : Option Bytes :=
  match fs.node? place with
  | some (.file content _) => some content
  | _ => none

/-! ## Steps that can be made -/

theorem walk_append (here : Location) (before after : List Step) :
    fs.walk here (before ++ after) =
      (fs.walk here before).bind fun there => fs.walk there after := by
  induction before generalizing here with
  | nil => rfl
  | cons step before ih =>
    simp only [List.cons_append, walk]
    cases fs.node? here with
    | none => rfl
    | some node =>
      cases node with
      | file content permissions => rfl
      | directory permissions =>
        cases step with
        | up => exact ih here.tail
        | down name =>
          simp only
          split_ifs
          · rfl
          · exact ih (name :: here)

/-- Steps that can be made lead to where they lead. -/
theorem walk_eq_ok {here place : Location} {steps : List Step}
    (h : fs.walk here steps = .ok place) : place = steps.foldl Step.move here := by
  induction steps generalizing here with
  | nil => exact (Except.ok.inj h).symm
  | cons step steps ih =>
    unfold walk at h
    cases hn : fs.node? here with
    | none => simp [hn] at h
    | some node =>
      cases node with
      | file content permissions => simp [hn] at h
      | directory permissions =>
        simp only [hn] at h
        cases step with
        | up => exact ih h
        | down name =>
          simp only at h
          split_ifs at h
          exact ih h

/-- A step is made from a directory. -/
theorem isDirectory_of_walk_cons {here place : Location} {step : Step} {steps : List Step}
    (h : fs.walk here (step :: steps) = .ok place) : fs.IsDirectory here := by
  unfold walk at h
  cases hn : fs.node? here with
  | none => simp [hn] at h
  | some node =>
    cases node with
    | file content permissions => simp [hn] at h
    | directory permissions => exact ⟨permissions, hn⟩

/-- What it takes to locate a path. -/
theorem walk_of_locate {path : Path} {place : Location} (h : fs.locate path = .ok place) :
    fs.walk (fs.origin path) path.steps = .ok place := by
  unfold locate at h
  cases hcheck : path.check with
  | error e => simp [hcheck, bind, Except.bind] at h
  | ok u =>
    show fs.walk (if path.absolute then [] else fs.workingDirectory) path.steps = .ok place
    cases hwalk : fs.walk (if path.absolute then [] else fs.workingDirectory) path.steps with
    | error e => simp [hcheck, hwalk, bind, Except.bind] at h
    | ok there =>
      simp only [hcheck, hwalk, bind, Except.bind] at h
      split at h
      · cases h
      · exact h

theorem goal_of_locate {path : Path} {place : Location} (h : fs.locate path = .ok place) :
    fs.goal path = place := (walk_eq_ok (walk_of_locate h)).symm

/-- What is read is in a file at the place to which the path leads. -/
theorem file_of_read {path : Path} {content : Bytes} (h : fs.read path = .ok content) :
    fs.locate path = .ok (fs.goal path) ∧
      ∃ permissions, fs.node? (fs.goal path) = some (.file content permissions) := by
  unfold read look at h
  cases hl : fs.locate path with
  | error e => simp [hl, bind, Except.bind] at h
  | ok place =>
    simp only [hl, bind, Except.bind] at h
    rw [goal_of_locate hl]
    refine ⟨rfl, ?_⟩
    cases hn : fs.node? place with
    | none => simp [hn] at h
    | some node =>
      cases node with
      | directory permissions => simp [hn] at h
      | file content' permissions =>
        simp only [hn] at h
        cases h
        exact ⟨permissions, rfl⟩

theorem content?_of_read {path : Path} {content : Bytes} (h : fs.read path = .ok content) :
    fs.content? (fs.goal path) = some content := by
  obtain ⟨-, permissions, hn⟩ := file_of_read h
  simp only [content?, hn]

/-- A path leads to the same place where its steps come out alike and the same is at their end. -/
theorem locate_congr {path : Path} (horigin : fs'.workingDirectory = fs.workingDirectory)
    (hwalk : fs'.walk (fs.origin path) path.steps = fs.walk (fs.origin path) path.steps)
    (hgoal : fs'.node? (fs.goal path) = fs.node? (fs.goal path)) :
    fs'.locate path = fs.locate path := by
  have hwalk' : fs'.walk (if path.absolute then [] else fs'.workingDirectory) path.steps =
      fs.walk (if path.absolute then [] else fs.workingDirectory) path.steps := by
    rw [horigin]
    exact hwalk
  unfold locate
  rw [hwalk']
  cases path.check with
  | error e => rfl
  | ok u =>
    cases hplace : fs.walk (if path.absolute then [] else fs.workingDirectory) path.steps with
    | error e => rfl
    | ok place =>
      obtain rfl : place = fs.goal path := walk_eq_ok hplace
      simp only [bind, Except.bind, hgoal]

/-- Then it is read alike. -/
theorem read_congr {path : Path} (horigin : fs'.workingDirectory = fs.workingDirectory)
    (hwalk : fs'.walk (fs.origin path) path.steps = fs.walk (fs.origin path) path.steps)
    (hgoal : fs'.node? (fs.goal path) = fs.node? (fs.goal path)) :
    fs'.read path = fs.read path := by
  unfold read look
  rw [locate_congr horigin hwalk hgoal]
  cases hl : fs.locate path with
  | error e => rfl
  | ok place =>
    rw [goal_of_locate hl] at hgoal
    simp only [bind, Except.bind, hgoal]

/-! ## Trees -/

/-- Everything stands in a directory. -/
def Tree (fs : FileSystem) : Prop :=
  ∀ name place, fs.node? (name :: place) ≠ none → fs.IsDirectory place

/-- Where nothing is there is nothing below. -/
theorem Tree.none_below (h : fs.Tree) {place : Location} (hnone : fs.node? place = none)
    (names : List FileName) : fs.node? (names ++ place) = none := by
  induction names with
  | nil => exact hnone
  | cons name names ih =>
    refine Classical.byContradiction fun hsome => ?_
    exact not_isDirectory_of_none ih (h name (names ++ place) hsome)

theorem tree_of_no_nodes (h : fs.nodes = []) : fs.Tree := by
  intro name place hsome
  exact absurd (by simp [node?, h]) hsome

theorem Tree.parent (h : fs.Tree) {place : Location} (hsome : fs.node? place ≠ none) :
    place ≠ [] → fs.IsDirectory place.tail := by
  cases place with
  | nil => exact fun hne => absurd rfl hne
  | cons name place => exact fun _ => h name place hsome

/-- Steps that lead to what is no directory end with a step down from one. -/
theorem Tree.last_step (h : fs.Tree) {here place : Location} {steps : List Step} {last : Step}
    (hwalk : fs.walk here (steps ++ [last]) = .ok place) (hfree : ¬fs.IsDirectory place) :
    ∃ name parent, last = .down name ∧ place = name :: parent ∧ fs.IsDirectory parent := by
  rw [walk_append] at hwalk
  cases hparent : fs.walk here steps with
  | error e =>
    rw [hparent] at hwalk
    cases hwalk
  | ok parent =>
    rw [hparent] at hwalk
    have hdirectory : fs.IsDirectory parent := isDirectory_of_walk_cons hwalk
    have hplace : place = [last].foldl Step.move parent := walk_eq_ok hwalk
    cases last with
    | down name => exact ⟨name, parent, rfl, hplace, hdirectory⟩
    | up =>
      -- What is above a directory is a directory.
      refine absurd ?_ hfree
      obtain rfl : place = parent.tail := hplace
      cases parent with
      | nil => exact fs.isDirectory_nil
      | cons name parent =>
        obtain ⟨permissions, hn⟩ := hdirectory
        exact h name parent (by simp [hn])

/-! ## What stays as it is -/

/-- Directories stay directories, and files stay files. -/
structure KeepsKinds (fs fs' : FileSystem) : Prop extends Extends fs fs' where
  file {place : Location} {content : Bytes} {permissions : Permissions} :
    fs.node? place = some (.file content permissions) →
      ∃ content' permissions', fs'.node? place = some (.file content' permissions')

theorem KeepsKinds.refl (fs : FileSystem) : KeepsKinds fs fs := ⟨.refl fs, fun h => ⟨_, _, h⟩⟩

theorem KeepsKinds.trans {fs'' : FileSystem} (h : KeepsKinds fs fs') (h' : KeepsKinds fs' fs'') :
    KeepsKinds fs fs'' := by
  refine ⟨h.toExtends.trans h'.toExtends, fun hfile => ?_⟩
  obtain ⟨content, permissions, hfile'⟩ := h.file hfile
  exact h'.file hfile'

/-- Two directories, or two files. -/
inductive SameKind : Node → Node → Prop
  | directory (permissions permissions' : Permissions) :
    SameKind (.directory permissions) (.directory permissions')
  | file (content content' : Bytes) (permissions permissions' : Permissions) :
    SameKind (.file content permissions) (.file content' permissions')

/-- Kinds are kept where something is put in the place of nothing, or of its like. -/
theorem keepsKinds_put {place : Location} {node : Node}
    (h : ∀ old, fs.node? place = some old → SameKind old node) :
    KeepsKinds fs (fs.put place node) := by
  have hself : ∀ old, place ≠ [] → fs.node? place = some old →
      (fs.put place node).node? place = some node ∧ SameKind old node :=
    fun old hne hold => ⟨node?_put_self fs hne node, h old hold⟩
  refine ⟨⟨rfl, ?_⟩, ?_⟩
  · rintro k ⟨permissions, hk⟩
    obtain rfl | hne := eq_or_ne k place
    · obtain rfl | hnil := eq_or_ne k []
      · exact isDirectory_nil _
      · obtain ⟨hnode, hkind⟩ := hself _ hnil hk
        cases hkind with
        | directory _ permissions' => exact ⟨permissions', hnode⟩
    · exact ⟨permissions, (node?_put_of_ne fs hne node).trans hk⟩
  · intro k content permissions hk
    obtain rfl | hne := eq_or_ne k place
    · have hnil : k ≠ [] := by
        rintro rfl
        cases hk
      obtain ⟨hnode, hkind⟩ := hself _ hnil hk
      cases hkind with
      | file _ content' _ permissions' => exact ⟨content', permissions', hnode⟩
    · exact ⟨content, permissions, (node?_put_of_ne fs hne node).trans hk⟩

/-- A tree stays one where something is put into a directory, in the place of nothing or of its
like. -/
theorem Tree.put (h : fs.Tree) {place : Location} {node : Node}
    (hparent : place ≠ [] → fs.IsDirectory place.tail)
    (hkind : ∀ old, fs.node? place = some old → SameKind old node) : (fs.put place node).Tree := by
  intro name k hsome
  have hkinds := keepsKinds_put hkind
  refine hkinds.directory ?_
  obtain rfl | hne := eq_or_ne place (name :: k)
  · exact hparent (List.cons_ne_nil _ _)
  · rw [node?_put_of_ne fs hne.symm] at hsome
    exact h name k hsome

/-- Something new is put into a directory. -/
theorem Tree.put_new (h : fs.Tree) {name : FileName} {parent : Location}
    (hparent : fs.IsDirectory parent) (hnone : fs.node? (name :: parent) = none) (node : Node) :
    (fs.put (name :: parent) node).Tree := by
  refine h.put (fun _ => hparent) fun old hold => ?_
  rw [hnone] at hold
  cases hold

/-! ## Ways through new directories -/

/-- Steps come out alike unless they fail for want of a directory. -/
theorem KeepsKinds.walk (h : KeepsKinds fs fs') {here : Location} {steps : List Step}
    (hwalk : fs.walk here steps ≠ .error .missing) : fs'.walk here steps = fs.walk here steps := by
  induction steps generalizing here with
  | nil => rfl
  | cons step steps ih =>
    unfold FileSystem.walk at hwalk ⊢
    cases hn : fs.node? here with
    | none => simp [hn] at hwalk
    | some node =>
      cases node with
      | file content permissions =>
        obtain ⟨content', permissions', hn'⟩ := h.file hn
        simp only [hn']
      | directory permissions =>
        obtain ⟨permissions', hn'⟩ := h.directory ⟨permissions, hn⟩
        simp only [hn] at hwalk
        simp only [hn']
        cases step with
        | up => exact ih hwalk
        | down name =>
          simp only at hwalk ⊢
          split_ifs at hwalk ⊢
          · rfl
          · exact ih hwalk

/-- From the last place that can be reached on its way, a path only goes down, by names that a
directory can hold. -/
def GoesDown (fs : FileSystem) (path : Path) : Prop :=
  ∃ (before : List Step) (names : List FileName) (here : Location),
    path.steps = before ++ names.map Step.down ∧ fs.walk (fs.origin path) before = .ok here ∧
      ∀ name ∈ names, name.length ≤ FileName.maxLength

theorem foldl_move_down (here : Location) (names : List FileName) :
    (names.map Step.down).foldl Step.move here = names.reverse ++ here := by
  induction names generalizing here with
  | nil => rfl
  | cons name names ih =>
    rw [List.map_cons, List.foldl_cons, ih, List.reverse_cons, List.append_assoc]
    rfl

/-- On a way that only goes down, new directories may let more steps be made. These lead to where
nothing was. -/
theorem KeepsKinds.walk_down (h : KeepsKinds fs fs') (htree : fs.Tree) {names : List FileName}
    (hnames : ∀ name ∈ names, name.length ≤ FileName.maxLength) {here : Location}
    (hfree : ∀ k, k.length < here.length + names.length → fs.node? k = none →
      ∀ content permissions, fs'.node? k ≠ some (.file content permissions)) :
    fs'.walk here (names.map .down) = fs.walk here (names.map .down) ∨
      fs.walk here (names.map .down) = .error .missing ∧
        fs'.walk here (names.map .down) = .ok (names.reverse ++ here) ∧
        fs.node? (names.reverse ++ here) = none := by
  induction names generalizing here with
  | nil => exact .inl rfl
  | cons name names ih =>
    have hname := hnames name List.mem_cons_self
    have hrest := @ih (fun n hn => hnames n (List.mem_cons_of_mem _ hn)) (name :: here)
      fun k hk => hfree k (by simp only [List.length_cons] at hk ⊢; omega)
    have hgoal : (name :: names).reverse ++ here = names.reverse ++ name :: here := by simp
    rw [hgoal, List.map_cons]
    have hdown : ∀ g : FileSystem, g.IsDirectory here →
        g.walk here (.down name :: names.map .down) = g.walk (name :: here) (names.map .down) := by
      rintro g ⟨permissions, hn⟩
      simp only [FileSystem.walk, hn, if_neg (Nat.not_lt.2 hname)]
    cases hn : fs.node? here with
    | some node =>
      cases node with
      | directory permissions =>
        have hdirectory : fs.IsDirectory here := ⟨permissions, hn⟩
        rw [hdown fs hdirectory, hdown fs' (h.directory hdirectory)]
        exact hrest
      | file content permissions =>
        obtain ⟨content', permissions', hn'⟩ := h.file hn
        exact .inl (by simp only [FileSystem.walk, hn, hn'])
    | none =>
      have hmissing : fs.walk here (.down name :: names.map .down) = .error .missing := by
        simp only [FileSystem.walk, hn]
      have hbelow := htree.none_below hn (names.reverse ++ [name])
      rw [List.append_assoc, List.singleton_append] at hbelow
      cases hn' : fs'.node? here with
      | none => exact .inl (by simp only [FileSystem.walk, hn, hn'])
      | some node' =>
        cases node' with
        | file content permissions =>
          exact absurd hn' (hfree here (by simp) hn content permissions)
        | directory permissions =>
          rw [hmissing, hdown fs' ⟨permissions, hn'⟩]
          obtain heq | ⟨-, hok, -⟩ := hrest
          · -- Nothing is below: the rest can be made only where there is none.
            cases names with
            | nil => exact .inr ⟨rfl, rfl, hbelow⟩
            | cons name' names =>
              have hnone : fs.node? (name :: here) = none := htree.none_below hn [name]
              refine .inl (heq.trans ?_)
              simp only [List.map_cons, FileSystem.walk, hnone]
          · exact .inr ⟨rfl, hok, hbelow⟩

/-- What is read at the end of a path stays the same where kinds are kept, the same is at its goal,
and no new file is above it, unless missing directories leave it open where the path leads. -/
theorem KeepsKinds.read (h : KeepsKinds fs fs') (htree : fs.Tree) {path : Path}
    (hway : fs.locate path = .error .missing → fs.GoesDown path)
    (hgoal : fs'.node? (fs.goal path) = fs.node? (fs.goal path))
    (hfree : ∀ k, k.length < (fs.goal path).length → fs.node? k = none →
      ∀ content permissions, fs'.node? k ≠ some (.file content permissions)) :
    fs'.read path = fs.read path := by
  by_cases hmissing : fs.walk (fs.origin path) path.steps = .error .missing
  case neg => exact read_congr h.workingDirectory (h.walk hmissing) hgoal
  cases hcheck : path.check with
  | error e => simp [FileSystem.read, look, locate, hcheck, bind, Except.bind]
  | ok u =>
    have hlocate : fs.locate path = .error .missing := by
      simp only [locate, hcheck, bind, Except.bind]
      rw [← origin, hmissing]
    obtain ⟨before, names, here, hsteps, hbefore, hnames⟩ := hway hlocate
    have hplace : fs.goal path = names.reverse ++ here := by
      rw [goal, hsteps, List.foldl_append, ← walk_eq_ok hbefore, foldl_move_down]
    have hwalk : ∀ g : FileSystem, g.walk (fs.origin path) before = .ok here →
        g.walk (fs.origin path) path.steps = g.walk here (names.map .down) := by
      intro g hg
      rw [hsteps, walk_append, hg]
      rfl
    have hbefore' := h.toExtends.walk hbefore
    rw [hplace, List.length_append, List.length_reverse, Nat.add_comm] at hfree
    obtain heq | ⟨-, hok, hnone⟩ := h.walk_down htree hnames hfree
    · rw [← hwalk fs hbefore, ← hwalk fs' hbefore'] at heq
      exact read_congr h.workingDirectory heq hgoal
    · -- The way is open now, but nothing is at its end.
      rw [← hwalk fs' hbefore', ← hplace] at hok
      rw [← hplace] at hnone
      have hlocate' : fs'.locate path = .ok (fs.goal path) := by
        have hstart : (if path.absolute then [] else fs'.workingDirectory) = fs.origin path := by
          rw [h.workingDirectory]
          rfl
        simp only [locate, hcheck, bind, Except.bind, hstart, hok, hgoal, hnone]
        cases path.toDirectory <;> rfl
      simp only [FileSystem.read, look, hlocate, hlocate', bind, Except.bind, hgoal, hnone]

end FileSystem

end AccessConsole
