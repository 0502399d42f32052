import AccessConsole.Proofs.FileSystem.Guarded
import AccessConsole.Proofs.Store.Atomicity

/-!
# Who may read the entries

The file of a store is for its owner alone, and so is the file beside it once it is complete.

* `FileStore.Closed`, `Closed.write` — all files that a store has written are closed to others, and
  stay so with one more write, whatever comes of it.
* `FileStore.entries_are_owners_alone` — between two writes all is closed, and within a write it is
  if and only if the umask takes enough.
* `FileStore.entries_never_lie_open`, `FileStore.new_entries_lie_open` — a umask that takes enough,
  and the usual one, with which all entries lie open within a write.
-/

namespace AccessConsole

/-! ## Writes -/

theorem Entries.ofText_text_ne_nil (entries : Entries) : Bytes.ofText entries.text ≠ [] := by
  intro hnil
  have hblank := not_blank_of_document (Json.read?_pretty entries.document)
  have htext := Bytes.text?_ofText entries.text
  rw [hnil] at htext
  have hempty : "" = entries.document.pretty := Option.some.inj htext
  rw [← hempty] at hblank
  exact absurd hblank (by decide)

namespace FileStore

variable {start store : FileStore} {w : Write}

/-- The store after some writes, whatever comes of them. -/
def after (store : FileStore) (ws : List Write) : FileStore :=
  ws.foldl (fun s w => (w.run s).2) store

theorem save_snd (store : FileStore) (entries : Entries) :
    (store.save entries).2 =
      store.withFiles (runCalls (saveCalls store.path entries) store.files).2 := by
  unfold save
  rcases runCalls (saveCalls store.path entries) store.files with ⟨_ | _, files⟩ <;> rfl

/-- The files of a store, all of them closed since the start. -/
structure Closed (start : FileStore) (store : FileStore) : Prop where
  path : store.path = start.path
  files : Guarded start.files start.besidePlace (· = FileCall.ownerOnly) store.files

theorem Closed.besidePlace (h : Closed start store) : store.besidePlace = start.besidePlace := by
  unfold FileStore.besidePlace
  rw [h.path]
  exact h.files.goal_eq _

/-- A write that comes back leaves all closed, also when it fails. -/
theorem Closed.write (h : Closed start store) (w : Write) : Closed start (w.run store).2 := by
  obtain ⟨entries, -, hrun⟩ | ⟨-, hrun⟩ := store.run_eq w
  · rw [hrun, save_snd]
    refine ⟨h.path, ?_⟩
    unfold saveCalls
    rw [h.path]
    exact FileCall.guarded_of_runCalls h.files
  · rw [hrun]
    exact h

theorem Closed.after (h : Closed start store) (ws : List Write) :
    Closed start (store.after ws) := by
  induction ws generalizing store with
  | nil => exact h
  | cons w ws ih => exact ih (h.write w)

/-- A write that is stopped at any time leaves all closed, unless the file beside is still to be
closed to others. -/
theorem Closed.stopped (h : Closed start store) {rest : List FileCall} {files : FileSystem}
    (hs : Stopped (store.writeCalls w) store.files rest files) :
    Guarded start.files start.besidePlace (· = FileCall.ownerOnly) files ∨
      .restrict (start.path.withExtension besideExtension) FileCall.ownerOnly ∈ rest ∧
        Guarded start.files start.besidePlace (FileCall.openBits start.files) files := by
  unfold writeCalls at hs
  cases hsaved : store.saved? w with
  | none =>
    rw [hsaved] at hs
    cases hs
    exact .inl h.files
  | some entries =>
    rw [hsaved] at hs
    unfold saveCalls at hs
    rw [h.path] at hs
    exact FileCall.guarded_of_stopped h.files hs

/-- Before a write is complete, the file beside holds all new entries, with the bits of a new
file. -/
theorem stopped_open {entries : Entries} (hsaved : store.saved? w = some entries)
    (hrun : (w.run store).1 = .ok ()) (hfree : store.files.content? store.besidePlace = none) :
    ∃ rest files, Stopped (store.writeCalls w) store.files rest files ∧
      files.node? store.besidePlace = some
        (.file (Bytes.ofText entries.text) (FileCall.newFile &&& ~~~store.files.umask)) := by
  have hcalls : store.writeCalls w = saveCalls store.path entries := by
    simp only [writeCalls, hsaved]
  obtain ⟨entries', hsaved', hsave⟩ | ⟨hnone, -⟩ := store.run_eq w
  · obtain rfl : entries' = entries := Option.some.inj (hsaved'.symm.trans hsaved)
    rw [hsave, save] at hrun
    rcases hresult : runCalls (saveCalls store.path entries') store.files with ⟨_ | _, files⟩
    · rw [hresult] at hrun
      cases hrun
    · rw [hcalls]
      exact FileCall.stopped_before_restrict hresult hfree
  · rw [hnone] at hsaved
    cases hsaved

/-- No file is beside that of a store at the start. After any writes, failed ones among them, all
files that were written are for their owner alone. While one more write is made, there may be one
file that is not: the new entries stand in the file beside before it is closed to others, and have
all permission bits that the umask leaves to a new file. So nothing ever lies open if and only if
these bits are those of the owner. -/
theorem entries_are_owners_alone {store : FileStore}
    (hfresh : store.files.content? store.besidePlace = none) (ws : List Write) (w : Write) :
    let s := store.after ws
    let bits := FileCall.newFile &&& ~~~store.files.umask
    OwnersAlone store.files s.files ∧
    (∀ rest files, Stopped (s.writeCalls w) s.files rest files →
      OwnersAlone store.files files ∨
        .restrict (s.path.withExtension besideExtension) FileCall.ownerOnly ∈ rest ∧
          (∃ content, files.node? s.besidePlace = some (.file content bits)) ∧
          OwnersAlone store.files (files.erase s.besidePlace)) ∧
    ((w.run s).1 = .ok () → s.saved? w ≠ none → s.files.content? s.besidePlace = none →
      ((∀ rest files, Stopped (s.writeCalls w) s.files rest files →
          OwnersAlone store.files files) ↔ bits = FileCall.ownerOnly)) := by
  intro s bits
  have hclosed : Closed store s := Closed.after ⟨rfl, .refl hfresh⟩ ws
  rw [hclosed.besidePlace, hclosed.path]
  refine ⟨hclosed.files.ownersAlone, fun rest files hs => ?_, fun hrun hsaves hfree => ⟨?_, ?_⟩⟩
  · obtain hfiles | ⟨hrest, hfiles⟩ := hclosed.stopped hs
    · exact .inl hfiles.ownersAlone
    · by_cases hopen : ∃ content, files.node? store.besidePlace = some (.file content bits)
      · have herased : Guarded store.files store.besidePlace (· = FileCall.ownerOnly)
            (files.erase store.besidePlace) := hfiles.erase
        exact .inr ⟨hrest, hopen, herased.ownersAlone⟩
      · left
        intro k content permissions hn _
        obtain rfl | hk := eq_or_ne k store.besidePlace
        · obtain howner | rfl := hfiles.beside hn
          · exact .inr howner
          · exact absurd ⟨content, hn⟩ hopen
        · exact hfiles.elsewhere hk hn
  · intro hall
    obtain ⟨entries, hsaved⟩ := Option.ne_none_iff_exists'.1 hsaves
    obtain ⟨rest, filled, hs, hn⟩ := stopped_open hsaved hrun (hclosed.besidePlace ▸ hfree)
    rw [hclosed.besidePlace, hclosed.files.umask] at hn
    exact (hall rest filled hs).of_new hfresh hn entries.ofText_text_ne_nil
  · intro hbits rest files hs
    obtain hfiles | ⟨-, hfiles⟩ := hclosed.stopped hs
    · exact hfiles.ownersAlone
    · exact (hfiles.mono fun p hp => hp.elim id fun h => h.trans hbits).ownersAlone

/-- There is no file yet, and the umask leaves new files to their owner. -/
def privateStore : FileStore := ⟨.ofText "session.json", { umask := 0o077 }⟩

/-- Nothing lies open while an access token is stored beside a refresh token. -/
theorem entries_never_lie_open :
    let s := privateStore.after [.set refreshKey "r1"]
    let w : Write := .set accessKey "a1"
    OwnersAlone privateStore.files s.files ∧
      ∀ rest files, Stopped (s.writeCalls w) s.files rest files →
        OwnersAlone privateStore.files files := by
  intro s w
  have hfresh : privateStore.files.content? privateStore.besidePlace = none := by decide +kernel
  obtain ⟨hclosed, -, hiff⟩ := entries_are_owners_alone hfresh [.set refreshKey "r1"] w
  refine ⟨hclosed, ?_⟩
  apply (hiff (by decide +kernel) (by decide +kernel) (by decide +kernel)).2
  decide

/-- There is no file yet, and the umask is the usual one. -/
def freshStore : FileStore := ⟨.ofText "session.json", {}⟩

/-- With the usual umask, an access token that is stored beside a refresh token lies open to all
before the write is complete, and the refresh token with it. -/
theorem new_entries_lie_open :
    let s := freshStore.after [.set refreshKey "r1"]
    let w : Write := .set accessKey "a1"
    let entries : Entries := [(accessKey, "a1"), (refreshKey, "r1")]
    freshStore.files.content? freshStore.besidePlace = none ∧
    OwnersAlone freshStore.files s.files ∧
    ∃ rest files, Stopped (s.writeCalls w) s.files rest files ∧
      files.node? s.besidePlace = some (.file (Bytes.ofText entries.text) 0o644) ∧
      ¬OwnersAlone freshStore.files files := by
  intro s w entries
  have hfresh : freshStore.files.content? freshStore.besidePlace = none := by decide +kernel
  have hclosed : Closed freshStore s := Closed.after ⟨rfl, .refl hfresh⟩ [.set refreshKey "r1"]
  have hsaved : s.saved? w = some entries := by decide +kernel
  obtain ⟨rest, files, hs, hn⟩ := stopped_open hsaved (by decide +kernel) (by decide +kernel)
  rw [hclosed.files.umask] at hn
  refine ⟨hfresh, hclosed.files.ownersAlone, rest, files, hs, hn, fun hall => ?_⟩
  rw [hclosed.besidePlace] at hn
  exact absurd (hall.of_new hfresh hn entries.ofText_text_ne_nil) (by decide)

end FileStore

end AccessConsole
