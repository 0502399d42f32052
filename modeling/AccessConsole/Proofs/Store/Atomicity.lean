import AccessConsole.Proofs.FileSystem.Stopped
import AccessConsole.Proofs.Session.Texts
import AccessConsole.Proofs.Store.File

/-!
# The file is old or new

Each write to the store in a file replaces the file as a whole. A process may stop before a
replacement is complete, and a call of it may fail.

* `Write.onEntries`, `FileStore.saved?`, `FileStore.writeCalls` — what a write puts into the file,
  and the calls that it makes.
* `FileStore.stopped_of_run` — a write leaves behind what its calls do, stopped or not.
* `FileStore.write_is_atomic` — at all times the file holds its old content or the complete new
  one, and after a failure the old one.
* `FileStore.failed_write_opens_way` — making missing directories may open the way to a file.
-/

namespace AccessConsole

open FileSystem

/-- The entries after a write; none if the file is not to be touched. -/
def Write.onEntries (entries : Entries) : Write → Option Entries
  | .set key value => some (entries.insert key value)
  | .remove key => if (entries.get? key).isNone then none else some (entries.erase key)

namespace FileStore

variable {store : FileStore}

/-- The entries that a write puts into the file, if it writes to it at all. -/
def saved? (store : FileStore) (w : Write) : Option Entries :=
  match store.entries with
  | .ok entries => w.onEntries entries
  | .error _ => none

/-- The calls that a write makes once it has read the file. -/
def writeCalls (store : FileStore) (w : Write) : List FileCall :=
  match store.saved? w with
  | some entries => saveCalls store.path entries
  | none => []

/-- The store on another state of the file system. -/
def withFiles (store : FileStore) (files : FileSystem) : FileStore := { store with files }

/-- The place beside the file, for new entries. -/
def besidePlace (store : FileStore) : Location :=
  store.files.goal (store.path.withExtension besideExtension)

/-- What is found in the file after a write that is complete. -/
def readAfter (store : FileStore) (w : Write) : Except FileError Bytes :=
  match store.saved? w with
  | some entries => .ok (Bytes.ofText entries.text)
  | none => store.files.read store.path

/-- A write either saves entries or changes nothing. -/
theorem run_eq (store : FileStore) (w : Write) :
    (∃ entries, store.saved? w = some entries ∧ w.run store = store.save entries) ∨
      store.saved? w = none ∧ (w.run store).2 = store := by
  cases w with
  | set key value =>
    cases hentries : store.entries with
    | error e =>
      exact .inr ⟨by simp [saved?, hentries], by simp [Write.run, KeyStore.set, hentries]⟩
    | ok entries =>
      exact .inl ⟨entries.insert key value, by simp [saved?, hentries, Write.onEntries],
        by simp [Write.run, KeyStore.set, hentries]⟩
  | remove key =>
    cases hentries : store.entries with
    | error e =>
      exact .inr ⟨by simp [saved?, hentries], by simp [Write.run, KeyStore.remove, hentries]⟩
    | ok entries =>
      cases hkey : entries.get? key with
      | none =>
        exact .inr ⟨by simp [saved?, hentries, Write.onEntries, hkey],
          by simp [Write.run, KeyStore.remove, hentries, hkey]⟩
      | some value =>
        exact .inl ⟨entries.erase key, by simp [saved?, hentries, Write.onEntries, hkey],
          by simp [Write.run, KeyStore.remove, hentries, hkey]⟩

/-- A write leaves behind what its calls do, stopped or not: all are made if it succeeds, and one of
them is not if it fails. -/
theorem stopped_of_run (store : FileStore) (w : Write) :
    ∃ rest files, Stopped (store.writeCalls w) store.files rest files ∧
      (w.run store).2 = store.withFiles files ∧ ((w.run store).1 = .ok () → rest = []) ∧
      (∀ e, (w.run store).1 = .error e → rest = [] → store.saved? w = none) := by
  obtain ⟨entries, hsaved, hrun⟩ | ⟨hsaved, hrun⟩ := store.run_eq w
  · have hcalls : store.writeCalls w = saveCalls store.path entries := by
      simp only [writeCalls, hsaved]
    rw [hcalls, hrun, save]
    rcases hresult : runCalls (saveCalls store.path entries) store.files with ⟨_ | _, files⟩
    · obtain ⟨rest, hne, hstopped⟩ := stopped_of_runCalls_error hresult
      exact ⟨rest, files, hstopped, rfl, by simp, fun _ _ hnil => absurd hnil hne⟩
    · exact ⟨[], files, stopped_of_runCalls_ok hresult, rfl, fun _ => rfl, by simp⟩
  · have hcalls : store.writeCalls w = [] := by simp only [writeCalls, hsaved]
    rw [hcalls, hrun]
    exact ⟨[], store.files, .between _ _, rfl, fun _ => rfl, fun _ _ _ => hsaved⟩

/-- Nothing but the content of the file counts for the entries. -/
theorem entries_congr {files : FileSystem}
    (h : files.read store.path = store.files.read store.path) :
    (store.withFiles files).entries = store.entries := by
  unfold entries withFiles
  simp only [h]

theorem get_congr {files : FileSystem} (h : files.read store.path = store.files.read store.path)
    (key : String) : KeyStore.get (store.withFiles files) key = KeyStore.get store key :=
  congrArg (Except.map (·.get? key)) (entries_congr h)

theorem saved?_congr {files : FileSystem} (h : files.read store.path = store.files.read store.path)
    (w : Write) : (store.withFiles files).saved? w = store.saved? w := by
  unfold saved?
  rw [entries_congr h]

/-- When all calls of a write are made, the new entries are in the file. -/
theorem read_of_complete {w : Write} {files : FileSystem}
    (h : Stopped (store.writeCalls w) store.files [] files) :
    files.read store.path = store.readAfter w := by
  unfold writeCalls at h
  unfold readAfter
  cases hsaved : store.saved? w with
  | none =>
    rw [hsaved] at h
    cases h
    rfl
  | some entries =>
    rw [hsaved] at h
    have hrun := h.runCalls_ok
    obtain ⟨done, hdone, hread, -⟩ := FileCall.replace_again hrun (Bytes.ofText entries.text)
    obtain rfl : done = files := congrArg Prod.snd (hdone.symm.trans hrun)
    exact hread

/-- What a write leaves behind that is not complete. -/
theorem ready_of_stopped {w : Write}
    (hbeside : (store.path.withExtension besideExtension).steps ≠ store.path.steps)
    {rest : List FileCall} {files : FileSystem}
    (h : Stopped (store.writeCalls w) store.files rest files) (hrest : rest ≠ []) :
    FileCall.Ready store.files store.path (store.path.withExtension besideExtension) files := by
  unfold writeCalls at h
  cases hsaved : store.saved? w with
  | none =>
    rw [hsaved] at h
    cases h
    exact absurd rfl hrest
  | some entries =>
    rw [hsaved] at h
    exact FileCall.stopped_replace (beside_withExtension hbeside) h hrest

/-- Only a file that is there or missing is replaced; so the way to it goes down from what is there,
if it does so where directories are missing. -/
theorem goesDown_of_saved {w : Write} {entries : Entries} (h : store.saved? w = some entries)
    (hway : store.files.locate store.path = .error .missing → store.files.GoesDown store.path) :
    store.files.GoesDown store.path := by
  cases hlocate : store.files.locate store.path with
  | ok place => exact ⟨store.path.steps, [], place, by simp, walk_of_locate hlocate, by simp⟩
  | error e =>
    have hread : store.files.read store.path = .error e := by
      simp [FileSystem.read, look, hlocate, bind, Except.bind]
    cases e with
    | missing => exact hway hlocate
    | _ => simp [saved?, FileStore.entries, hread] at h

/-- At the place to which the path leads there is nothing but the old content or the new one. -/
theorem content?_of_stopped {w : Write}
    (hbeside : (store.path.withExtension besideExtension).steps ≠ store.path.steps)
    {rest : List FileCall} {files : FileSystem}
    (h : Stopped (store.writeCalls w) store.files rest files) :
    files.content? (store.files.goal store.path) =
        store.files.content? (store.files.goal store.path) ∨
      rest = [] ∧ ∃ entries, store.saved? w = some entries ∧
        files.content? (store.files.goal store.path) = some (Bytes.ofText entries.text) := by
  by_cases hrest : rest = []
  · subst hrest
    cases hsaved : store.saved? w with
    | none =>
      simp only [writeCalls, hsaved] at h
      cases h
      exact .inl rfl
    | some entries =>
      have hread := read_of_complete h
      simp only [readAfter, hsaved] at hread
      have hcontent := content?_of_read hread
      rw [goal_congr h.workingDirectory] at hcontent
      exact .inr ⟨rfl, entries, rfl, hcontent⟩
  · have hready := ready_of_stopped hbeside h hrest
    exact .inl (hready.made.content? ((beside_withExtension hbeside).goal_ne store.files))

/-- Where the way to the file is not opened to something else, it reads as its old content or as the
new one. -/
theorem read_of_stopped {w : Write}
    (hbeside : (store.path.withExtension besideExtension).steps ≠ store.path.steps)
    (htree : store.files.Tree)
    (hway : store.files.locate store.path = .error .missing → store.files.GoesDown store.path)
    {rest : List FileCall} {files : FileSystem}
    (h : Stopped (store.writeCalls w) store.files rest files) :
    files.read store.path =
      if rest = [] then store.readAfter w else store.files.read store.path := by
  split_ifs with hrest
  · subst hrest
    exact read_of_complete h
  · have hready := ready_of_stopped hbeside h hrest
    cases hsaved : store.saved? w with
    | none =>
      simp only [writeCalls, hsaved] at h
      cases h
      exact absurd rfl hrest
    | some entries =>
      exact hready.read (beside_withExtension hbeside) htree (goesDown_of_saved hsaved hway)

/-- At all times the file holds its old content, or the complete new one once all calls of a write
have been made; when the write fails it holds the old one. What is left beside it changes neither
what is found nor what is stored. Where making the directories above the file does not open its
way to something else, all this can be read off the path, and after a failure every text is found
as before. -/
theorem write_is_atomic {store : FileStore}
    (hbeside : (store.path.withExtension besideExtension).steps ≠ store.path.steps) (w : Write) :
    let place := store.files.goal store.path
    (∀ rest files, Stopped (store.writeCalls w) store.files rest files →
      files.content? place = store.files.content? place ∨
        rest = [] ∧ ∃ entries, store.saved? w = some entries ∧
          files.content? place = some (Bytes.ofText entries.text)) ∧
    (∀ e, (w.run store).1 = .error e →
      (w.run store).2.files.content? place = store.files.content? place) ∧
    ((w.run store).1 = .ok () → (w.run store).2.files.read store.path = store.readAfter w) ∧
    (∀ content, store.files.read (store.path.withExtension besideExtension) = .ok content →
      let clean := store.withFiles (store.files.erase store.besidePlace)
      (∀ key, KeyStore.get clean key = KeyStore.get store key) ∧
        clean.readAfter w = store.readAfter w) ∧
    (store.files.Tree →
      (store.files.locate store.path = .error .missing → store.files.GoesDown store.path) →
      (∀ rest files, Stopped (store.writeCalls w) store.files rest files →
        files.read store.path =
          if rest = [] then store.readAfter w else store.files.read store.path) ∧
      ∀ e, (w.run store).1 = .error e →
        ∀ key, KeyStore.get (w.run store).2 key = KeyStore.get store key) := by
  intro place
  obtain ⟨rest, files, hstopped, hleft, hok, herror⟩ := store.stopped_of_run w
  have hsame : ∀ e, (w.run store).1 = .error e → rest = [] →
      files.read store.path = store.files.read store.path := by
    intro e he hrest
    have hread := read_of_complete (hrest ▸ hstopped)
    simpa only [readAfter, herror e he hrest] using hread
  rw [hleft]
  refine ⟨fun rest files h => content?_of_stopped hbeside h, fun e he => ?_, fun hrun => ?_,
    fun content hread => ?_, fun htree hway => ⟨?_, fun e he key => ?_⟩⟩
  · obtain hold | ⟨hrest, entries, hsaved, -⟩ := content?_of_stopped hbeside hstopped
    · exact hold
    · rw [herror e he hrest] at hsaved
      cases hsaved
  · exact read_of_complete (hok hrun ▸ hstopped)
  · have hclean : (store.files.erase store.besidePlace).read store.path =
        store.files.read store.path := (beside_withExtension hbeside).read_erase hread
    refine ⟨fun key => get_congr hclean key, ?_⟩
    unfold readAfter
    rw [saved?_congr hclean]
    cases store.saved? w with
    | some entries => rfl
    | none => exact hclean
  · exact fun rest files h => read_of_stopped hbeside htree hway h
  · refine get_congr ?_ key
    have hread := read_of_stopped hbeside htree hway hstopped
    split_ifs at hread with hrest
    · exact hsame e he hrest
    · exact hread

/-- A file of entries, and a torn one that was left beside it. -/
def tornBeside : FileStore where
  path := .ofText "session.json"
  files := (({} : FileSystem).put [Bytes.ofText "session.json"]
    (.file (Bytes.ofText (Entries.text [("k", "v")])) 0o600)).put [Bytes.ofText "session.tmp"]
    (.file (Bytes.ofText "\x7b") 0o600)

/-- A text is stored beside a torn file. -/
theorem write_beside_torn_file_is_atomic :
    let store := tornBeside
    let w : Write := .set "a" "b"
    let clean := store.withFiles (store.files.erase store.besidePlace)
    (store.path.withExtension besideExtension).steps ≠ store.path.steps ∧ store.files.Tree ∧
    ((w.run store).1 = .ok () → (w.run store).2.files.read store.path = store.readAfter w) ∧
    (∀ key, KeyStore.get clean key = KeyStore.get store key) ∧
    clean.readAfter w = store.readAfter w ∧
    (∀ rest files, Stopped (store.writeCalls w) store.files rest files →
      files.read store.path =
        if rest = [] then store.readAfter w else store.files.read store.path) ∧
    ∀ e, (w.run store).1 = .error e →
      ∀ key, KeyStore.get (w.run store).2 key = KeyStore.get store key := by
  intro store w clean
  have hbeside : (store.path.withExtension besideExtension).steps ≠ store.path.steps := by
    decide +kernel
  have htree : store.files.Tree :=
    Tree.put_new (Tree.put_new (tree_of_no_nodes rfl) (isDirectory_nil _) rfl _)
      (isDirectory_nil _) (by decide +kernel) _
  have hlocate : store.files.locate store.path ≠ .error .missing := by decide +kernel
  have htorn : store.files.read (store.path.withExtension besideExtension) =
      .ok (Bytes.ofText "\x7b") := by decide +kernel
  obtain ⟨-, -, hdone, hclean, hread⟩ := write_is_atomic hbeside w
  obtain ⟨hget, hafter⟩ := hclean _ htorn
  obtain ⟨hstopped, hfailed⟩ := hread htree fun h => absurd h hlocate
  exact ⟨hbeside, htree, hdone, hget, hafter, hstopped, hfailed⟩

/-- A path to a file through a directory that is missing: no file is found there. -/
def throughMissing : FileStore where
  path := .ofText "session.tmp/../session.json"
  files := ({} : FileSystem).put [Bytes.ofText "session.json"]
    (.file (Bytes.ofText (Entries.text [("k", "v")])) 0o600)

/-- The missing directory is made, then the write fails, as the directory stands where the file
beside is to be. Now the path leads to a file: what was not found before is found. -/
theorem failed_write_opens_way :
    let store := throughMissing
    let after := (Write.run (.set "a" "b") store).2
    (store.path.withExtension besideExtension).steps ≠ store.path.steps ∧ store.files.Tree ∧
    (Write.run (.set "a" "b") store).1 = .error (.io FileError.isDirectory.access) ∧
    KeyStore.get store "k" = .ok none ∧ KeyStore.get after "k" = .ok (some "v") := by
  intro store after
  have htree : store.files.Tree :=
    Tree.put_new (tree_of_no_nodes rfl) (isDirectory_nil _) rfl _
  have hmissing : store.files.read store.path = .error .missing := by decide +kernel
  have hafter : after.files.read after.path =
      .ok (Bytes.ofText (Entries.document [("k", "v")]).pretty) := by decide +kernel
  have hholds : after.Holds [("k", "v")] :=
    .object hafter (Bytes.text?_ofText _) (Json.read?_pretty _)
  obtain ⟨entries, hentries, -, hget⟩ := hholds.entries
  refine ⟨by decide +kernel, htree, by decide +kernel, ?_, ?_⟩
  · show store.entries.map (·.get? "k") = _
    simp only [FileStore.entries, hmissing]
    rfl
  · show after.entries.map (·.get? "k") = _
    rw [hentries]
    show Except.ok (entries.get? "k") = _
    rw [hget]
    rfl

end FileStore

end AccessConsole
