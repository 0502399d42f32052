import AccessConsole.Proofs.Session.Texts

/-!
# Changes cut short

A change reaches the store in up to three writes, each under one key. A process may end between
two of them, and a later one restores what it finds.

* `Change.AltersAtMostOne` — two of access token, refresh token and user stay as they are.
* `Change.AltersAtMostOne.partway`, `Change.altersAtMostOne_of_partway` — such changes, and no
  others, are never found half made.
* `cut_change_restored` — what is restored after the first writes of a change.
* `cut_sign_in_mixes_sessions` — the sign-in of somebody else, cut short after its first write.
-/

namespace AccessConsole

namespace Change

/-- Two of access token, refresh token and user are the same before and after a change. -/
def AltersAtMostOne (change : Change) (s : Session) : Prop :=
  let new := change.session s
  (new.access = s.access ∧ new.refresh = s.refresh) ∨ (new.access = s.access ∧ new.user = s.user) ∨
    (new.refresh = s.refresh ∧ new.user = s.user)

/-- A change that alters at most one of the three is made by the one write that alters it. -/
theorem AltersAtMostOne.partway {change : Change} {s : Session} (h : change.AltersAtMostOne s)
    (n : Nat) : change.partway n s = s ∨ change.partway n s = change.session s := by
  unfold AltersAtMostOne at h
  unfold Change.partway
  generalize (change.writes.take n).map Write.key = made
  generalize change.session s = new at h
  obtain ⟨access, refresh, user⟩ := s
  obtain ⟨access', refresh', user'⟩ := new
  obtain ⟨rfl, rfl⟩ | ⟨rfl, rfl⟩ | ⟨rfl, rfl⟩ := h
  · by_cases hmade : userKey ∈ made <;> simp [hmade]
  · by_cases hmade : refreshKey ∈ made <;> simp [hmade]
  · by_cases hmade : accessKey ∈ made <;> simp [hmade]

/-- Where the tokens are written first, there is a time at which only the access token is new, and
one at which both tokens are. -/
theorem partway_tokens {change : Change}
    (hkeys : (change.writes.map Write.key).take 2 = [accessKey, refreshKey]) (s : Session) :
    change.partway 1 s = { s with access := (change.session s).access } ∧
      change.partway 2 s = { change.session s with user := s.user } := by
  obtain ⟨har, hau, hru⟩ := keys_distinct
  have htwo : (change.writes.take 2).map Write.key = [accessKey, refreshKey] := by
    rw [List.map_take, hkeys]
  have hone : (change.writes.take 1).map Write.key = [accessKey] := by
    have := congrArg (List.take 1) hkeys
    rwa [List.take_take, ← List.map_take] at this
  constructor
  · simp only [partway, hone]
    simp [har.symm, hau.symm]
  · simp only [partway, htwo]
    simp [hau.symm, hru.symm]

/-- A change that is never found half made alters at most one of the three. -/
theorem altersAtMostOne_of_partway {change : Change} {s : Session}
    (h : ∀ n, change.partway n s = s ∨ change.partway n s = change.session s) :
    change.AltersAtMostOne s := by
  have hcases : (change.writes.map Write.key).take 2 = [accessKey, refreshKey] ∨
      change.AltersAtMostOne s := by
    cases change with
    | setTokens access refresh =>
      cases refresh with
      | none => exact .inr (.inr (.inr ⟨rfl, rfl⟩))
      | some refresh => exact .inl rfl
    | setUser user => exact .inr (.inl ⟨rfl, rfl⟩)
    | _ => exact .inl rfl
  obtain hkeys | halters := hcases
  · obtain ⟨hone, htwo⟩ := partway_tokens hkeys s
    have hfirst := h 1
    have hsecond := h 2
    rw [hone] at hfirst
    rw [htwo] at hsecond
    unfold AltersAtMostOne
    generalize change.session s = new at hfirst hsecond
    obtain ⟨access, refresh, user⟩ := s
    obtain ⟨access', refresh', user'⟩ := new
    simp only [Session.mk.injEq, true_and, and_true] at hfirst hsecond
    tauto
  · exact halters

end Change

section

variable {σ : Type} [KeyStore σ] {Shows : σ → TextMap → Prop}

/-- A change made over a store that never fails. When all its writes have been made, the new
session is restored. If the process ends before that, what is restored has the new texts under
the keys that were written and the old ones under the others. This is the old or the new session
at every time just where the change alters at most one of access token, refresh token and user. -/
theorem cut_change_restored (hmap : IsTextMap Shows) {context : SessionContext σ} {map : TextMap}
    (hstore : Shows context.store map) (change : Change) :
    let old := TextMap.session map
    (∃ restored, SessionContext.restore (context.after change).store = .ok restored ∧
      restored.session = change.session old) ∧
    (∀ n, ∃ restored,
      SessionContext.restore (runAll (change.writes.take n) context.store) = .ok restored ∧
      restored.session = change.partway n old) ∧
    ((∀ n, change.partway n old = old ∨ change.partway n old = change.session old) ↔
      change.AltersAtMostOne old) := by
  intro old
  refine ⟨?_, fun n => ?_, Change.altersAtMostOne_of_partway, fun h n => h.partway n⟩
  · obtain ⟨restored, hrestored, -, hsession⟩ := hmap.restore (hmap.after hstore change)
    exact ⟨restored, hrestored, hsession.trans (change.session_writes map)⟩
  · obtain ⟨restored, hrestored, -, hsession⟩ :=
      hmap.restore (hmap.writes hstore (change.writes.take n))
    exact ⟨restored, hrestored, hsession.trans (change.session_writes_take n map)⟩

end

/-- Somebody is signed in. -/
def aliceSession : Session := ⟨some "a1", some "r1", some ⟨1, "alice@x", none, none, none⟩⟩

/-- Their session in a store. -/
def aliceStore : MemoryStore :=
  ⟨[("current_user", CurrentUser.codec.encode ⟨1, "alice@x", none, none, none⟩),
    ("jwt_token", "a1"), ("refresh_token", "r1")]⟩

/-- Somebody else signs in. -/
def bobSignsIn : Change := .establish "b1" "s1" ⟨2, "bob@x", none, none, none⟩

/-- The sign-in over the store in memory. -/
theorem cut_sign_in_restored :
    let context : SessionContext MemoryStore := ⟨aliceStore, aliceSession, .authenticated, 0⟩
    let old := TextMap.session aliceStore.entries.get?
    context.store.Shows aliceStore.entries.get? ∧
    (∃ restored, SessionContext.restore (context.after bobSignsIn).store = .ok restored ∧
      restored.session = bobSignsIn.session old) ∧
    (∀ n, ∃ restored,
      SessionContext.restore (runAll (bobSignsIn.writes.take n) context.store) = .ok restored ∧
      restored.session = bobSignsIn.partway n old) ∧
    ((∀ n, bobSignsIn.partway n old = old ∨ bobSignsIn.partway n old = bobSignsIn.session old) ↔
      bobSignsIn.AltersAtMostOne old) := by
  intro context old
  have hshows : context.store.Shows aliceStore.entries.get? := rfl
  exact ⟨hshows, cut_change_restored MemoryStore.isTextMap hshows bobSignsIn⟩

/-- After its first write the sign-in leaves the new access token with the refresh token and the
user of before: neither the old session nor the new one is restored. -/
theorem cut_sign_in_mixes_sessions :
    (∃ restored, SessionContext.restore aliceStore = .ok restored ∧
      restored.session = aliceSession) ∧
    ¬ ∀ n, ∃ restored,
      SessionContext.restore (runAll (bobSignsIn.writes.take n) aliceStore) = .ok restored ∧
      (restored.session = aliceSession ∨ restored.session = bobSignsIn.session aliceSession) := by
  have hshows : aliceStore.Shows aliceStore.entries.get? := rfl
  have hold : TextMap.session aliceStore.entries.get? = aliceSession := by
    have huser : aliceStore.entries.get? userKey =
        some (CurrentUser.codec.encode ⟨1, "alice@x", none, none, none⟩) := rfl
    simp only [TextMap.session, huser, Option.bind_some, CurrentUser.decode?_encode]
    rfl
  constructor
  · obtain ⟨restored, hrestored, -, hsession⟩ := MemoryStore.isTextMap.restore hshows
    exact ⟨restored, hrestored, hsession.trans hold⟩
  · intro h
    obtain ⟨restored, hrestored, hmixed⟩ := h 1
    obtain ⟨found, hfound, -, hsession⟩ :=
      MemoryStore.isTextMap.restore (MemoryStore.isTextMap.writes hshows (bobSignsIn.writes.take 1))
    obtain rfl : restored = found := Except.ok.inj (hrestored.symm.trans hfound)
    rw [hsession, bobSignsIn.session_writes_take, hold] at hmixed
    exact absurd hmixed (by decide)

end AccessConsole
