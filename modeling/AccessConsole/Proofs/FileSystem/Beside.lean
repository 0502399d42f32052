import AccessConsole.Proofs.FileSystem.Way
import Mathlib.Data.List.DropRight

/-!
# Paths above and beside a path

* `Path.steps_of_mem_prefixes` — a directory on the way is reached by fewer steps.
* `Beside` — two paths that part in the last step, the first of them with a step down.
* `beside_withExtension` — so do a path and the path with another extension, unless they are the
  same.
-/

namespace AccessConsole

namespace Path

/-! ## Spelling -/

/-- Where a path has a piece with bytes, only the pieces before it tell whether it is absolute. -/
theorem absolute_of_piece {p : Path} {before after : List Bytes} {piece : Bytes}
    (hp : p.pieces = before ++ piece :: after) (hpiece : piece ≠ []) :
    p.absolute = decide (before.head? = some []) := by
  unfold absolute
  rw [hp]
  cases before with
  | nil => cases piece with
    | nil => exact absurd rfl hpiece
    | cons byte bytes => rfl
  | cons first before => cases first with
    | nil => cases before <;> rfl
    | cons byte bytes => rfl

theorem ne_nil_of_step? {piece : Bytes} {step : Step} (h : step? piece = some step) :
    piece ≠ [] := by
  rintro rfl
  cases h

/-- Only pieces without a step are trimmed. -/
theorem pieces_eq_trimmed_append (p : Path) :
    ∃ blank, p.pieces = p.trimmed ++ blank ∧ ∀ piece ∈ blank, step? piece = none := by
  let isBlank : Bytes → Bool := fun piece => (step? piece).isNone
  refine ⟨(p.pieces.reverse.takeWhile isBlank).reverse, ?_, ?_⟩
  · have h := congrArg List.reverse (p.pieces.reverse.takeWhile_append_dropWhile (p := isBlank))
    rw [List.reverse_append, List.reverse_reverse] at h
    exact h.symm
  · intro piece hpiece
    have := List.mem_takeWhile_imp (List.mem_reverse.1 hpiece)
    exact Option.isNone_iff_eq_none.1 this

theorem steps_eq_trimmed (p : Path) : p.steps = p.trimmed.filterMap step? := by
  obtain ⟨blank, hp, hblank⟩ := p.pieces_eq_trimmed_append
  rw [steps, hp, List.filterMap_append, List.filterMap_eq_nil_iff.2 hblank, List.append_nil]

/-- A path that may lead to a file ends with a step. -/
theorem steps_eq_concat {p : Path} (h : p.toDirectory = false) :
    ∃ pieces last steps step, p.pieces = pieces ++ [last] ∧ step? last = some step ∧
      p.steps = steps ++ [step] := by
  unfold toDirectory at h
  cases hlast : p.pieces.getLast? with
  | none => simp [hlast] at h
  | some last =>
    obtain ⟨pieces, hpieces⟩ := List.getLast?_eq_some_iff.1 hlast
    obtain ⟨step, hstep⟩ := Option.isSome_iff_exists.1 (by simpa [hlast] using h)
    refine ⟨pieces, last, pieces.filterMap step?, step, hpieces, hstep, ?_⟩
    rw [steps, hpieces, List.filterMap_append, List.filterMap_cons_some hstep]
    rfl

/-- The last piece that is left stands for a step. -/
theorem step?_of_trimmed {p : Path} {pieces : List Bytes} {last : Bytes}
    (h : p.trimmed = pieces ++ [last]) : ∃ step, step? last = some step := by
  have hne : p.trimmed ≠ [] := by simp [h]
  have hlast : p.trimmed.getLast hne = last := by simp [h]
  have hstep : ¬(step? (p.trimmed.getLast hne)).isNone = true :=
    List.rdropWhile_last_not (fun piece => (step? piece).isNone) p.pieces hne
  rw [hlast] at hstep
  exact Option.ne_none_iff_exists'.1 (by simpa using hstep)

/-! ## Directories on the way -/

theorem prefix_of_mem_beginnings {α : Type} {l xs : List α} (h : l ∈ beginnings xs) : l <+: xs := by
  induction xs generalizing l with
  | nil => cases h
  | cons x xs ih =>
    rw [beginnings, List.mem_cons, List.mem_map] at h
    obtain rfl | ⟨l, hl, rfl⟩ := h
    · exact ⟨xs, rfl⟩
    · exact (List.prefix_cons_inj x).2 (ih hl)

/-- A directory on the way is reached by fewer steps. -/
theorem steps_of_mem_prefixes {p q : Path} (h : q ∈ p.prefixes) :
    q.absolute = p.absolute ∧ ∃ step rest, p.steps = q.steps ++ step :: rest := by
  obtain ⟨hmap, hfile⟩ := List.mem_filter.1 h
  obtain ⟨pieces, hpieces, rfl⟩ := List.mem_map.1 hmap
  obtain ⟨between, hbetween⟩ := prefix_of_mem_beginnings hpieces
  obtain ⟨init, last, -, step, rfl, hstep, -⟩ :=
    steps_eq_concat (p := ⟨pieces⟩) (by simpa using hfile)
  have htrimmed : p.trimmed ≠ [] := by
    intro hnil
    simp [hnil] at hbetween
  obtain ⟨name, hname⟩ : ∃ name, p.trimmed = init ++ [last] ++ between ++ [name] :=
    ⟨_, by rw [hbetween, List.dropLast_append_getLast htrimmed]⟩
  obtain ⟨final, hfinal⟩ := step?_of_trimmed hname
  obtain ⟨blank, hblank, -⟩ := p.pieces_eq_trimmed_append
  constructor
  · have hp : p.pieces = init ++ last :: (between ++ name :: blank) := by
      rw [hblank, hname]
      simp
    have hq : (⟨init ++ [last]⟩ : Path).pieces = init ++ last :: [] := rfl
    rw [absolute_of_piece hp (ne_nil_of_step? hstep),
      absolute_of_piece hq (ne_nil_of_step? hstep)]
  · have hsteps : p.steps =
        steps ⟨init ++ [last]⟩ ++ (between.filterMap step? ++ [final]) := by
      rw [steps_eq_trimmed, hname, List.filterMap_append, List.filterMap_append,
        List.filterMap_cons_some hfinal, List.append_assoc]
      rfl
    obtain ⟨step, rest, hrest⟩ :=
      List.exists_cons_of_ne_nil (l := between.filterMap step? ++ [final]) (by simp)
    exact ⟨step, rest, hrest ▸ hsteps⟩

end Path

/-! ## Paths side by side -/

/-- Two paths that part in the last step, where the first one goes down. -/
structure Beside (path beside : Path) : Prop where
  absolute : beside.absolute = path.absolute
  steps : ∃ above name last, path.steps = above ++ [.down name] ∧ beside.steps = above ++ [last] ∧
    last ≠ .down name

theorem FileName.stem_ne_nil {name : FileName} (h : name ≠ []) : name.stem ≠ [] := by
  unfold stem
  simp only
  split_ifs with hbefore
  · exact h
  · simpa using hbefore

/-- A name with an extension has two bytes at least, so it stands for a step. -/
theorem step?_withExtension {name : FileName} (h : name ≠ []) (extension : Bytes) :
    ∃ step, Path.step? (name.withExtension extension) = some step := by
  obtain ⟨byte, bytes, hstem⟩ := List.exists_cons_of_ne_nil (FileName.stem_ne_nil h)
  unfold Path.step? FileName.withExtension
  rw [hstem]
  split_ifs with hblank hup
  · simp at hblank
  · exact ⟨_, rfl⟩
  · exact ⟨_, rfl⟩

/-- Another last piece leads beside a path, unless it is the same way. -/
theorem beside_of_pieces {path : Path} {above : List Bytes} {name piece : Bytes} {last : Step}
    (htrimmed : path.trimmed = above ++ [name]) (hname : Path.step? name = some (.down name))
    (hpiece : Path.step? piece = some last) (h : (⟨above ++ [piece]⟩ : Path).steps ≠ path.steps) :
    Beside path ⟨above ++ [piece]⟩ := by
  have hpath : path.steps = above.filterMap Path.step? ++ [.down name] := by
    rw [path.steps_eq_trimmed, htrimmed, List.filterMap_append, List.filterMap_cons_some hname]
    rfl
  have hbeside : (⟨above ++ [piece]⟩ : Path).steps = above.filterMap Path.step? ++ [last] := by
    rw [Path.steps, List.filterMap_append, List.filterMap_cons_some hpiece]
    rfl
  refine ⟨?_, _, name, last, hpath, hbeside, ?_⟩
  · obtain ⟨blank, hblank, -⟩ := path.pieces_eq_trimmed_append
    have hp : path.pieces = above ++ name :: blank := by
      rw [hblank, htrimmed, List.append_assoc]
      rfl
    rw [Path.absolute_of_piece hp (Path.ne_nil_of_step? hname),
      Path.absolute_of_piece (p := ⟨above ++ [piece]⟩) rfl (Path.ne_nil_of_step? hpiece)]
  · rintro rfl
    exact h (hbeside.trans hpath.symm)

/-- A path with another extension leads beside the path, unless it is the same way. -/
theorem beside_withExtension {path : Path} {extension : Bytes}
    (h : (path.withExtension extension).steps ≠ path.steps) :
    Beside path (path.withExtension extension) := by
  unfold Path.withExtension at h ⊢
  cases hlast : path.trimmed.getLast? with
  | none => simp [hlast] at h
  | some name =>
    obtain ⟨above, habove⟩ := List.getLast?_eq_some_iff.1 hlast
    obtain ⟨step, hstep⟩ := Path.step?_of_trimmed habove
    simp only [hlast] at h ⊢
    simp only [habove, List.dropLast_concat] at h ⊢
    split_ifs at h ⊢ with hup
    · exact absurd rfl h
    all_goals
      have hname : Path.step? name = some (.down name) := by
        unfold Path.step? at hstep ⊢
        split_ifs at hstep ⊢
        rfl
    · exact beside_of_pieces habove hname (show Path.step? _ = some .up from rfl) h
    · obtain ⟨last, hnew⟩ := step?_withExtension (Path.ne_nil_of_step? hstep) extension
      exact beside_of_pieces habove hname hnew h

/-! ## Places -/

section

variable {fs : FileSystem} {path beside : Path}

theorem Beside.goals (h : Beside path beside) (fs : FileSystem) :
    ∃ name last parent, fs.goal path = name :: parent ∧ fs.goal beside = Step.move parent last ∧
      last ≠ .down name := by
  obtain ⟨above, name, last, hpath, hbeside, hne⟩ := h.steps
  refine ⟨name, last, above.foldl Step.move (fs.origin path), ?_, ?_, hne⟩
  · rw [FileSystem.goal, hpath, List.foldl_append]
    rfl
  · rw [FileSystem.goal, hbeside, List.foldl_append, FileSystem.origin_congr h.absolute]
    rfl

/-- Paths that part in the last step lead to different places. -/
theorem Beside.goal_ne (h : Beside path beside) (fs : FileSystem) :
    fs.goal path ≠ fs.goal beside := by
  obtain ⟨name, last, parent, hpath, hbeside, hne⟩ := h.goals fs
  rw [hpath, hbeside]
  cases last with
  | down other =>
    intro heq
    exact hne (congrArg Step.down (List.cons_eq_cons.1 heq).1.symm)
  | up =>
    intro heq
    have hlength := congrArg List.length heq
    simp only [Step.move, List.length_cons, List.length_tail] at hlength
    omega

/-- In a tree a file can only be made beside a path, and not above it. -/
theorem Beside.located (h : Beside path beside) (htree : fs.Tree) {place : Location}
    (hlocate : fs.locate beside = .ok place) (hfree : ¬fs.IsDirectory place) :
    ∃ name parent, place = name :: parent ∧ fs.IsDirectory parent ∧
      (fs.goal path).length = place.length := by
  obtain ⟨above, name, last, hpath, hbeside, -⟩ := h.steps
  have hwalk := FileSystem.walk_of_locate hlocate
  rw [hbeside] at hwalk
  obtain ⟨new, parent, rfl, rfl, hparent⟩ := htree.last_step hwalk hfree
  have hplace := FileSystem.walk_eq_ok hwalk
  rw [List.foldl_append, FileSystem.origin_congr h.absolute] at hplace
  refine ⟨new, parent, rfl, hparent, ?_⟩
  rw [hplace, FileSystem.goal, hpath, List.foldl_append]
  rfl

/-- A file beside a path makes no difference to what is read there. -/
theorem Beside.read_erase (h : Beside path beside) {content : Bytes}
    (hread : fs.read beside = .ok content) :
    (fs.erase (fs.goal beside)).read path = fs.read path := by
  obtain ⟨hlocate, permissions, hfile⟩ := FileSystem.file_of_read hread
  have hsame := FileSystem.sameDirectories_erase (FileSystem.not_isDirectory_of_file hfile)
  obtain ⟨above, name, last, hpath, hbeside, -⟩ := h.steps
  -- Both ways begin with the same steps, which can be made.
  have hwalk := FileSystem.walk_of_locate hlocate
  rw [hbeside, FileSystem.walk_append, FileSystem.origin_congr h.absolute] at hwalk
  cases habove : fs.walk (fs.origin path) above with
  | error e =>
    rw [habove] at hwalk
    cases hwalk
  | ok parent =>
    rw [habove] at hwalk
    obtain ⟨p, hp⟩ := FileSystem.isDirectory_of_walk_cons hwalk
    obtain ⟨p', hp'⟩ := hsame.forth.directory ⟨p, hp⟩
    refine FileSystem.read_congr rfl ?_ ?_
    · rw [hpath, FileSystem.walk_append, FileSystem.walk_append, habove, hsame.forth.walk habove]
      show FileSystem.walk _ parent _ = fs.walk parent _
      simp only [FileSystem.walk, hp, hp']
    · have hne : fs.goal path ≠ [] := by
        rw [FileSystem.goal, hpath, List.foldl_append]
        exact List.cons_ne_nil _ _
      rw [FileSystem.node?_erase fs _ _ hne, if_neg (h.goal_ne fs)]

/-- The directories on the way of a path that only goes down are there, or stand above its goal. -/
theorem FileSystem.GoesDown.prefix_goal (h : fs.GoesDown path) {q : Path}
    (hq : q ∈ path.prefixes) :
    fs.IsDirectory (fs.goal q) ∨ (fs.goal q).length < (fs.goal path).length := by
  obtain ⟨before, names, here, hsteps, hwalk, -⟩ := h
  obtain ⟨habsolute, step, rest, hpath⟩ := Path.steps_of_mem_prefixes hq
  have horigin : fs.origin q = fs.origin path := FileSystem.origin_congr habsolute
  have hhere := FileSystem.walk_eq_ok hwalk
  have hgoal : fs.goal path = names.reverse ++ here := by
    rw [FileSystem.goal, hsteps, List.foldl_append, ← hhere, FileSystem.foldl_move_down]
  rw [hsteps] at hpath
  -- Either all steps that can be made are on the way to the directory, or some come after it.
  have hsplit : (∃ passed, q.steps = before ++ passed ∧
      names.map Step.down = passed ++ step :: rest) ∨
        ∃ next further, before = q.steps ++ next :: further := by
    obtain hpassed | ⟨_ | ⟨next, further⟩, hbefore, hrest⟩ := List.append_eq_append_iff.1 hpath
    · exact .inl hpassed
    · exact .inl ⟨[], by simpa using hbefore.symm, hrest.symm⟩
    · exact .inr ⟨next, further, hbefore⟩
  obtain ⟨passed, hq, hdown⟩ | ⟨next, further, hbefore⟩ := hsplit
  · obtain ⟨above, below, rfl, rfl, hbelow⟩ := List.map_eq_append_iff.1 hdown
    right
    have hbelow' : below ≠ [] := by
      rintro rfl
      cases hbelow
    have hlength := List.length_pos_of_ne_nil hbelow'
    rw [hgoal, FileSystem.goal, hq, List.foldl_append, horigin, ← hhere,
      FileSystem.foldl_move_down]
    simp only [List.length_append, List.length_reverse]
    omega
  · left
    rw [hbefore, FileSystem.walk_append] at hwalk
    cases hthere : fs.walk (fs.origin path) q.steps with
    | error e =>
      rw [hthere] at hwalk
      cases hwalk
    | ok there =>
      rw [hthere] at hwalk
      rw [FileSystem.goal, horigin, ← FileSystem.walk_eq_ok hthere]
      exact FileSystem.isDirectory_of_walk_cons hwalk

end

end AccessConsole
