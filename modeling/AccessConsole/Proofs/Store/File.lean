import AccessConsole.Proofs.FileSystem.Replace
import AccessConsole.Proofs.Json.Document
import AccessConsole.Proofs.Store.TextMap
import AccessConsole.Store.File
import Mathlib.Data.List.Nodup

/-!
# The store in a file is a map of texts

* `Entries.Distinct` — no key stands twice.
* `Entries.get?_insertAll` — of repeated keys the last one counts.
* `Entries.decode?_text` — the text of entries is read as the same map.
* `FileStore.Holds` — what a file may hold to begin with: nothing, blanks, or an object of texts.
* `FileStore.isTextMap` — where the file can be replaced, the store is a map of texts.
* `StoreCall`, `file_store_refines_memory` — the store in a file answers as the one in memory does.
-/

namespace AccessConsole

/-- A text is read from its bytes. -/
theorem Bytes.text?_ofText (s : String) : text? (ofText s) = some s := by
  have hbytes : (⟨(ofText s).toArray⟩ : ByteArray) = s.toByteArray := by
    simp [ofText, String.toUTF8]
  unfold text? String.fromUTF8?
  rw [hbytes, dif_pos s.isValidUTF8]
  rfl

/-! ## The text of entries -/

namespace Entries

/-- No key stands twice. -/
def Distinct (entries : Entries) : Prop := (entries.map (·.1)).Nodup

theorem distinct_nil : Distinct [] := List.nodup_nil

theorem Distinct.filter {entries : Entries} (h : entries.Distinct) (p : String × String → Bool) :
    Distinct (entries.filter p) :=
  List.Nodup.sublist (List.filter_sublist.map _) h

theorem Distinct.erase {entries : Entries} (h : entries.Distinct) (key : String) :
    (entries.erase key).Distinct := h.filter _

theorem Distinct.insert {entries : Entries} (h : entries.Distinct) (key value : String) :
    (entries.insert key value).Distinct := by
  have hbefore := h.filter (·.1 < key)
  have hafter := h.filter (key < ·.1)
  unfold Distinct at hbefore hafter ⊢
  unfold Entries.insert
  rw [List.map_append, List.map_cons, List.nodup_append, List.nodup_cons]
  refine ⟨hbefore, ⟨?_, hafter⟩, ?_⟩
  · simp only [List.mem_map, List.mem_filter, decide_eq_true_eq]
    rintro ⟨e, ⟨-, he⟩, hkey⟩
    exact absurd he (hkey ▸ lt_irrefl _)
  · simp only [List.mem_map, List.mem_filter, List.mem_cons, decide_eq_true_eq]
    rintro _ ⟨e, ⟨-, he⟩, rfl⟩ k (rfl | ⟨e', ⟨-, he'⟩, rfl⟩)
    · exact ne_of_lt he
    · exact ne_of_lt (he.trans he')

/-- An entry is found under its key. -/
theorem Distinct.get?_eq_some {entries : Entries} (h : entries.Distinct) {key value : String} :
    entries.get? key = some value ↔ (key, value) ∈ entries := by
  unfold get?
  constructor
  · intro hget
    obtain ⟨e, he, rfl⟩ := Option.map_eq_some_iff.1 hget
    have hkey : e.1 = key := by simpa using List.find?_some he
    exact hkey ▸ List.mem_of_find?_eq_some he
  · intro hmem
    cases hfind : entries.find? (·.1 = key) with
    | none => exact absurd (decide_eq_true rfl) (List.find?_eq_none.1 hfind _ hmem)
    | some e =>
      have hkey : e.1 = key := by simpa using List.find?_some hfind
      have he : e = (key, value) :=
        List.inj_on_of_nodup_map h (List.mem_of_find?_eq_some hfind) hmem hkey
      rw [he]
      rfl

theorem Distinct.get?_reverse {entries : Entries} (h : entries.Distinct) :
    get? entries.reverse = entries.get? := by
  have hreverse : Distinct entries.reverse := by
    unfold Distinct
    rw [List.map_reverse]
    exact List.nodup_reverse.2 h
  funext key
  refine Option.ext fun value => ?_
  rw [hreverse.get?_eq_some, h.get?_eq_some, List.mem_reverse]

/-- The entries with more of them, one after the other. -/
def insertAll (done members : Entries) : Entries :=
  members.foldl (fun done e => done.insert e.1 e.2) done

theorem Distinct.insertAll {done : Entries} (h : done.Distinct) (members : Entries) :
    (done.insertAll members).Distinct := by
  induction members generalizing done with
  | nil => exact h
  | cons e members ih => exact ih (h.insert e.1 e.2)

/-- Of repeated keys the last one counts. -/
theorem get?_insertAll (done members : Entries) (key : String) :
    (done.insertAll members).get? key = (get? members.reverse key).or (done.get? key) := by
  induction members generalizing done with
  | nil => rfl
  | cons e members ih =>
    have hinsert : (done.insert e.1 e.2).get? key = (get? [e] key).or (done.get? key) := by
      rw [get?_insert, Function.update_apply]
      by_cases hk : key = e.1
      · simp [get?, hk]
      · simp [get?, hk, Ne.symm hk]
    rw [List.reverse_cons, get?_append, Option.or_assoc, ← hinsert]
    exact ih (done.insert e.1 e.2)

/-- The object with the given members, which are all texts. -/
def document (members : Entries) : Json := .record (members.map fun m => (m.1, Json.text m.2))

theorem mapM_ofMember? (members : Entries) :
    ((members.map fun m => (m.1, Json.text m.2)).map fun m => (some m.1, m.2)).mapM ofMember? =
      some members := by
  induction members with
  | nil => rfl
  | cons m members ih =>
    have hm : ofMember? (some m.1, Json.text m.2) = some m := rfl
    simp only [List.map_cons, List.mapM_cons, hm, ih]
    rfl

theorem decode?_of_document {raw : String} {members : Entries}
    (h : Json.read? raw = some members.document) : decode? raw = some (insertAll [] members) := by
  unfold decode?
  simp only [h, document, Json.record, mapM_ofMember?, Option.map_some]
  rfl

/-- The text of entries is read as the same map. -/
theorem decode?_text {entries : Entries} (h : entries.Distinct) :
    ∃ again, decode? entries.text = some again ∧ again.Distinct ∧ again.get? = entries.get? := by
  refine ⟨_, decode?_of_document (Json.read?_pretty entries.document), distinct_nil.insertAll _, ?_⟩
  funext key
  rw [get?_insertAll, h.get?_reverse]
  exact Option.or_none

/-- The text of a document is not blank. -/
theorem not_blank_of_document {raw : String} {j : Json} (h : Json.read? raw = some j) :
    Text.isBlankText raw = false := by
  cases hb : Text.isBlankText raw with
  | false => rfl
  | true =>
    rw [Json.read?_of_blank hb] at h
    cases h

end Entries

/-! ## The file -/

namespace FileStore

/-- What a file may hold to begin with, as the members of an object. -/
inductive Holds (store : FileStore) : Entries → Prop
  /-- There is no file. -/
  | missing : store.files.read store.path = .error .missing → Holds store []
  /-- There are only blanks in it. -/
  | blank {bytes : Bytes} {raw : String} :
    store.files.read store.path = .ok bytes → Bytes.text? bytes = some raw →
    Text.isBlankText raw = true → Holds store []
  /-- There is an object of texts in it, perhaps with repeated keys. -/
  | object {bytes : Bytes} {raw : String} {members : Entries} :
    store.files.read store.path = .ok bytes → Bytes.text? bytes = some raw →
    Json.read? raw = some members.document → Holds store members

/-- Of repeated keys in the file the last one counts. -/
theorem Holds.entries {store : FileStore} {members : Entries} (h : store.Holds members) :
    ∃ entries, store.entries = .ok entries ∧ entries.Distinct ∧
      entries.get? = Entries.get? members.reverse := by
  unfold FileStore.entries
  cases h with
  | missing hread => exact ⟨[], by simp only [hread], Entries.distinct_nil, rfl⟩
  | blank hread htext hblank =>
    exact ⟨[], by simp only [hread, htext, hblank, if_true], Entries.distinct_nil, rfl⟩
  | object hread htext hjson =>
    refine ⟨Entries.insertAll [] members, ?_, Entries.distinct_nil.insertAll _, ?_⟩
    · simp [hread, htext, Entries.not_blank_of_document hjson, Entries.decode?_of_document hjson]
    · funext key
      rw [Entries.get?_insertAll]
      exact Option.or_none

/-- The calls that write the entries of a store would succeed. -/
def Writable (store : FileStore) : Prop :=
  ∃ entries files, runCalls (saveCalls store.path entries) store.files = (.ok (), files)

/-- What was saved is read again, and more can be saved. -/
theorem Writable.save {store : FileStore} (h : store.Writable) {entries : Entries}
    (hd : entries.Distinct) :
    (store.save entries).1 = .ok () ∧ (store.save entries).2.Writable ∧
      ∃ again, (store.save entries).2.entries = .ok again ∧ again.Distinct ∧
        again.get? = entries.get? := by
  obtain ⟨first, files, hfirst⟩ := h
  obtain ⟨done, hdone, hread, next, hnext⟩ :=
    FileCall.replace_again hfirst (Bytes.ofText entries.text)
  have hsave : store.save entries = (.ok (), { store with files := done }) := by
    unfold FileStore.save saveCalls
    rw [hdone]
  rw [hsave]
  obtain ⟨again, hagain, hdistinct, hget⟩ := Entries.decode?_text hd
  refine ⟨rfl, ⟨entries, next, hnext⟩, again, ?_, hdistinct, hget⟩
  have hblank := Entries.not_blank_of_document (Json.read?_pretty entries.document)
  have htext : entries.text = entries.document.pretty := rfl
  unfold FileStore.entries
  rw [← htext] at hblank
  simp [hread, Bytes.text?_ofText, hblank, hagain]

/-- The file can be written, and holds entries that come to the map. -/
structure Shows (store : FileStore) (map : TextMap) : Prop where
  writable : store.Writable
  entries : ∃ entries, store.entries = .ok entries ∧ entries.Distinct ∧ entries.get? = map

theorem shows_save {store : FileStore} (h : store.Writable) {entries : Entries}
    (hd : entries.Distinct) {map : TextMap} (hmap : entries.get? = map) :
    (store.save entries).1 = .ok () ∧ (store.save entries).2.Shows map := by
  obtain ⟨hok, hwritable, again, hagain, hdistinct, hget⟩ := h.save hd
  exact ⟨hok, hwritable, again, hagain, hdistinct, hget.trans hmap⟩

/-- Where the file can be replaced, the store is a map of texts. -/
theorem isTextMap : IsTextMap FileStore.Shows where
  get {store _} h key := by
    obtain ⟨entries, hentries, -, rfl⟩ := h.entries
    show store.entries.map (·.get? key) = _
    rw [hentries]
    rfl
  set {store _} h key value := by
    obtain ⟨entries, hentries, hd, rfl⟩ := h.entries
    have hset : KeyStore.set store key value = store.save (entries.insert key value) := by
      simp only [KeyStore.set, hentries]
    rw [hset]
    exact shows_save h.writable (hd.insert key value) (entries.get?_insert key value)
  remove {store map} h key := by
    obtain ⟨entries, hentries, hd, rfl⟩ := h.entries
    cases hkey : entries.get? key with
    | none =>
      have hremove : KeyStore.remove store key = (.ok (), store) := by
        simp [KeyStore.remove, hentries, hkey]
      rw [hremove, ← hkey, Function.update_eq_self]
      exact ⟨rfl, h⟩
    | some value =>
      have hremove : KeyStore.remove store key = store.save (entries.erase key) := by
        simp [KeyStore.remove, hentries, hkey]
      rw [hremove]
      exact shows_save h.writable (hd.erase key) (entries.get?_erase key)

/-- To remove what is not there does not touch the file. -/
theorem remove_absent {store : FileStore} {map : TextMap} (h : store.Shows map) {key : String}
    (hkey : map key = none) : (KeyStore.remove store key).2 = store := by
  obtain ⟨entries, hentries, -, rfl⟩ := h.entries
  simp [KeyStore.remove, hentries, hkey]

/-- A new store on the same file. -/
def reopen (store : FileStore) : FileStore := ⟨store.path, store.files⟩

end FileStore

/-! ## Calls -/

/-- A call to a store. -/
inductive StoreCall
  | get (key : String)
  | set (key value : String)
  | remove (key : String)
  /-- The store is opened anew. -/
  | reopen
  deriving DecidableEq, Repr

section

variable {σ : Type} [KeyStore σ]

/-- A store after a call, given how it is opened anew. -/
def StoreCall.run (reopen : σ → σ) (store : σ) : StoreCall → σ
  | .get _ => store
  | .set key value => (KeyStore.set store key value).2
  | .remove key => (KeyStore.remove store key).2
  | .reopen => reopen store

/-- A map of texts after a call. -/
def StoreCall.onMap (map : TextMap) : StoreCall → TextMap
  | .get _ => map
  | .set key value => Function.update map key (some value)
  | .remove key => Function.update map key none
  | .reopen => map

/-- After any calls the store shows the map after these calls. -/
theorem IsTextMap.calls {Shows : σ → TextMap → Prop} (hmap : IsTextMap Shows) {reopen : σ → σ}
    (hreopen : ∀ store map, Shows store map → Shows (reopen store) map) (calls : List StoreCall)
    {store : σ} {map : TextMap} (h : Shows store map) :
    Shows (calls.foldl (StoreCall.run reopen) store) (calls.foldl StoreCall.onMap map) := by
  induction calls generalizing store map with
  | nil => exact h
  | cons call calls ih =>
    refine ih ?_
    cases call with
    | get key => exact h
    | set key value => exact (hmap.set h key value).2
    | remove key => exact (hmap.remove h key).2
    | reopen => exact hreopen store map h

end

/-- A store in a file that is not there yet, holds nothing but blanks or holds an object of texts,
and a store in memory with the same texts. After any calls to both, and any opening anew of the
store in the file, a text is found in the one as in the other, every write succeeds, and to remove
what is not there does not touch the file. -/
theorem file_store_refines_memory {file : FileStore} {members : Entries} {memory : MemoryStore}
    (hwritable : file.Writable) (hholds : file.Holds members)
    (hseed : ∀ key, memory.entries.get? key = Entries.get? members.reverse key)
    (calls : List StoreCall) :
    let f := calls.foldl (StoreCall.run FileStore.reopen) file
    let m := calls.foldl (StoreCall.run id) memory
    ∀ key, KeyStore.get f key = KeyStore.get m key ∧
      (∀ value, (KeyStore.set f key value).1 = .ok ()) ∧ (KeyStore.remove f key).1 = .ok () ∧
      (KeyStore.get m key = .ok none → (KeyStore.remove f key).2 = f) := by
  intro f m key
  obtain ⟨entries, hentries, hd, hget⟩ := hholds.entries
  have hfile : file.Shows (Entries.get? members.reverse) := ⟨hwritable, entries, hentries, hd, hget⟩
  have hmemory : memory.Shows (Entries.get? members.reverse) := funext hseed
  have hf := FileStore.isTextMap.calls (fun _ _ h => h) calls hfile
  have hm := MemoryStore.isTextMap.calls (fun _ _ h => h) calls hmemory
  have hgetf := FileStore.isTextMap.get hf key
  have hgetm := MemoryStore.isTextMap.get hm key
  refine ⟨hgetf.trans hgetm.symm, fun value => (FileStore.isTextMap.set hf key value).1,
    (FileStore.isTextMap.remove hf key).1, fun habsent => ?_⟩
  exact FileStore.remove_absent hf (Except.ok.inj (hgetm.symm.trans habsent))

/-- The members of an object that has a key twice. -/
def repeatedKey : Entries := [("a", "1"), ("b", "\x00"), ("a", "2")]

/-- A file that holds the object. -/
def repeatedKeyFile : FileStore where
  path := .ofText "s.json"
  files :=
    { nodes :=
        [([Bytes.ofText "s.json"], .file (Bytes.ofText repeatedKey.document.compact) 0o644)] }

/-- A key is removed, the store is opened anew, and a text that has to be escaped is stored. -/
theorem file_store_refines_repeated_key :
    repeatedKeyFile.Writable ∧ repeatedKeyFile.Holds repeatedKey ∧
    let calls : List StoreCall := [.remove "b", .reopen, .set "" "\"\\\n"]
    let f := calls.foldl (StoreCall.run FileStore.reopen) repeatedKeyFile
    let m := calls.foldl (StoreCall.run id) (⟨[("a", "2"), ("b", "\x00")]⟩ : MemoryStore)
    ∀ key, KeyStore.get f key = KeyStore.get m key ∧
      (∀ value, (KeyStore.set f key value).1 = .ok ()) ∧ (KeyStore.remove f key).1 = .ok () ∧
      (KeyStore.get m key = .ok none → (KeyStore.remove f key).2 = f) := by
  have hwritable : repeatedKeyFile.Writable := by
    let saved := runCalls (FileStore.saveCalls repeatedKeyFile.path []) repeatedKeyFile.files
    exact ⟨[], saved.2, Prod.ext (by decide +kernel) rfl⟩
  have hholds : repeatedKeyFile.Holds repeatedKey := by
    refine .object ?_ (Bytes.text?_ofText repeatedKey.document.compact) (Json.read?_compact _)
    decide +kernel
  refine ⟨hwritable, hholds, file_store_refines_memory hwritable hholds ?_ _⟩
  intro key
  have hlast : repeatedKey.reverse = [("a", "2"), ("b", "\x00"), ("a", "1")] := rfl
  rw [hlast]
  unfold Entries.get?
  by_cases ha : "a" = key
  · simp [ha]
  · by_cases hb : "b" = key <;> simp [ha, hb]

end AccessConsole
