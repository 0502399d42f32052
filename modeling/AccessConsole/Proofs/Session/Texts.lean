import AccessConsole.Proofs.Json.Codec
import AccessConsole.Proofs.Store.TextMap
import AccessConsole.Session.Context

/-!
# The session as texts

* `CurrentUser.decode?_encode` — every user is read back from its text.
* `TextMap.session` — the session that texts under keys stand for.
* `Change.partway`, `Change.session_writes_take` — the session when only the first writes of a
  change have been made.
* `Change.session_writes` — a change and all its writes come to the same session.
* `SessionContext.restore_ok` — a session that is restored is read from three texts.
* `IsTextMap.writes`, `IsTextMap.restore` — over a store that never fails, writes change the texts
  and a session is restored from them.
-/

namespace AccessConsole

theorem CurrentUser.lawful_codec : codec.Lawful :=
  Codec.lawful_record (by decide) (by simp) fun _ => rfl

/-- Every user is read back from its text, which opens a single object. -/
theorem CurrentUser.decode?_encode (u : CurrentUser) : codec.decode? (codec.encode u) = some u := by
  have hnesting : (codec.write u).nesting = 1 := by
    simp [codec, Codec.record, Fields.nesting_record, Field.nesting_of_flat]
  have hopened : Json.opened (codec.write u).compact ≤ Json.nestingLimit := by
    rw [Json.opened_compact, hnesting]
    decide
  exact (lawful_codec.decode?_compact u).trans (if_pos hopened)

/-! ## Texts that stand for a session -/

/-- The session that texts under keys stand for. A user that cannot be read is taken as unknown. -/
def TextMap.session (map : TextMap) : Session :=
  ⟨map accessKey, map refreshKey, (map userKey).bind CurrentUser.codec.decode?⟩

/-- A map of texts after a write. -/
def Write.onMap (map : TextMap) : Write → TextMap
  | .set key value => Function.update map key (some value)
  | .remove key => Function.update map key none

/-- The texts of a session stand under keys of their own. -/
theorem keys_distinct : accessKey ≠ refreshKey ∧ accessKey ≠ userKey ∧ refreshKey ≠ userKey := by
  decide

/-- The key that a write is made under. -/
def Write.key : Write → String
  | .set key _ => key
  | .remove key => key

/-- The session of which the first `n` writes of a change have been made and the others have not:
each text is new or old as its key is among them. -/
def Change.partway (change : Change) (n : Nat) (s : Session) : Session :=
  let made := (change.writes.take n).map Write.key
  { access := if accessKey ∈ made then (change.session s).access else s.access
    refresh := if refreshKey ∈ made then (change.session s).refresh else s.refresh
    user := if userKey ∈ made then (change.session s).user else s.user }

/-- The first writes of a change, made one by one. -/
theorem Change.session_writes_take (change : Change) (n : Nat) (map : TextMap) :
    TextMap.session ((change.writes.take n).foldl Write.onMap map) =
      change.partway n (TextMap.session map) := by
  obtain ⟨har, hau, hru⟩ := keys_distinct
  -- No change makes more than three writes.
  obtain _ | _ | _ | n := n
  · simp [partway]
  all_goals
    cases change with
    | establish access refresh user =>
      simp [writes, session, partway, TextMap.session, Write.onMap, Write.key, har, har.symm, hau,
        hau.symm, hru, hru.symm, CurrentUser.decode?_encode]
    | setTokens access refresh =>
      cases refresh <;>
        simp [writes, session, partway, TextMap.session, Write.onMap, Write.key, har, har.symm,
          hau.symm, hru.symm]
    | setUser user =>
      simp [writes, session, partway, TextMap.session, Write.onMap, Write.key, hau, hru,
        CurrentUser.decode?_encode]
    | clear | expire =>
      simp [writes, session, partway, TextMap.session, Write.onMap, Write.key, har, har.symm, hau,
        hau.symm, hru, hru.symm]

/-- When all writes of a change have been made, the session is the new one. -/
theorem Change.partway_all (change : Change) (s : Session) :
    change.partway change.writes.length s = change.session s := by
  obtain ⟨har, hau, hru⟩ := keys_distinct
  rw [partway, List.take_length]
  cases change with
  | setTokens access refresh =>
    cases refresh <;> simp [writes, session, Write.key, har.symm, hau.symm, hru.symm]
  | setUser user => simp [writes, session, Write.key, hau, hru]
  | _ => simp [writes, session, Write.key]

/-- A change made through its writes is the change made in memory. -/
theorem Change.session_writes (change : Change) (map : TextMap) :
    TextMap.session (change.writes.foldl Write.onMap map) =
      change.session (TextMap.session map) := by
  have h := change.session_writes_take change.writes.length map
  rwa [List.take_length, partway_all] at h

/-! ## Restored sessions -/

section

variable {σ : Type} [KeyStore σ]

/-- A session that is restored is read from the texts under its three keys. -/
theorem SessionContext.restore_ok {store : σ} {context : SessionContext σ}
    (h : restore store = .ok context) :
    ∃ access refresh user, KeyStore.get store accessKey = .ok access ∧
      KeyStore.get store refreshKey = .ok refresh ∧ KeyStore.get store userKey = .ok user ∧
      context = ⟨store, ⟨access, refresh, user.bind CurrentUser.codec.decode?⟩,
        if access.isSome then .authenticated else .signedOut, 0⟩ := by
  unfold restore at h
  cases ha : KeyStore.get store accessKey with
  | error e => simp [ha, bind, Except.bind] at h
  | ok access =>
    cases hr : KeyStore.get store refreshKey with
    | error e => simp [ha, hr, bind, Except.bind] at h
    | ok refresh =>
      cases hu : KeyStore.get store userKey with
      | error e => simp [ha, hr, hu, bind, Except.bind] at h
      | ok user =>
        simp only [ha, hr, hu, bind, Except.bind, pure, Except.pure, Except.ok.injEq] at h
        exact ⟨access, refresh, user, rfl, rfl, rfl, h.symm⟩

end

/-! ## Stores that never fail -/

section

variable {σ : Type} [KeyStore σ] {Shows : σ → TextMap → Prop}

namespace IsTextMap

theorem write (hmap : IsTextMap Shows) {store : σ} {map : TextMap} (h : Shows store map)
    (w : Write) :
    (w.run store).1 = .ok () ∧ Shows (w.run store).2 (w.onMap map) := by
  cases w with
  | set key value => exact hmap.set h key value
  | remove key => exact hmap.remove h key

theorem writes (hmap : IsTextMap Shows) {store : σ} {map : TextMap} (h : Shows store map)
    (ws : List Write) : Shows (runAll ws store) (ws.foldl Write.onMap map) := by
  induction ws generalizing store map with
  | nil => exact h
  | cons w ws ih => exact ih (hmap.write h w).2

/-- No failure stops the writes. -/
theorem runUntilFailure_eq (hmap : IsTextMap Shows) {store : σ} {map : TextMap}
    (h : Shows store map) (ws : List Write) :
    runUntilFailure ws store = (.ok (), runAll ws store) := by
  induction ws generalizing store map with
  | nil => rfl
  | cons w ws ih =>
    obtain ⟨hok, hshows⟩ := hmap.write h w
    rcases hw : w.run store with ⟨result, store'⟩
    rw [hw] at hok hshows
    cases hok
    simp only [runUntilFailure, hw, ih hshows, runAll, List.foldl_cons]

theorem after (hmap : IsTextMap Shows) {context : SessionContext σ} {map : TextMap}
    (h : Shows context.store map) (change : Change) :
    Shows (context.after change).store (change.writes.foldl Write.onMap map) := by
  have hstore : (context.after change).store = runAll change.writes context.store := by
    unfold SessionContext.after SessionContext.apply
    split_ifs
    · rfl
    · have hw := hmap.runUntilFailure_eq h change.writes
      show (runUntilFailure change.writes context.store).2 = _
      rw [hw]
  rw [hstore]
  exact hmap.writes h change.writes

theorem restore (hmap : IsTextMap Shows) {store : σ} {map : TextMap} (h : Shows store map) :
    ∃ context, SessionContext.restore store = .ok context ∧ context.store = store ∧
      context.session = TextMap.session map := by
  unfold SessionContext.restore
  rw [hmap.get h accessKey, hmap.get h refreshKey, hmap.get h userKey]
  exact ⟨_, rfl, rfl, rfl⟩

end IsTextMap

end

end AccessConsole
