import AccessConsole.Proofs.Gateway.Edits
import AccessConsole.Proofs.Gateway.Origin
import AccessConsole.Proofs.Session.Texts

/-!
# The session in the store

* `SessionContext.Mirrored` — the store holds what is held in memory.
* `store_holds_session` — in a run over a store that never fails this is so at all times.
-/

namespace AccessConsole

variable {σ : Type} [KeyStore σ] {Shows : σ → TextMap → Prop}

/-- The store shows texts that stand for the session held in memory. -/
def SessionContext.Mirrored (Shows : σ → TextMap → Prop) (context : SessionContext σ) : Prop :=
  ∃ map, Shows context.store map ∧ context.session = TextMap.session map

theorem SessionContext.Mirrored.edited (hmap : IsTextMap Shows) {context : SessionContext σ}
    (h : context.Mirrored Shows) (change : Option Change) :
    (context.edited change).Mirrored Shows := by
  cases change with
  | none => exact h
  | some change =>
    obtain ⟨map, hshows, hsession⟩ := h
    refine ⟨_, hmap.after hshows change, ?_⟩
    show (context.after change).session = _
    rw [after_session, hsession, change.session_writes map]

namespace Gateway

/-- A session is restored from a store that behaves as a map of texts and never fails, whatever
texts it holds. From then on the store holds the session at all times: to restore it again gives
what is held in memory. -/
theorem store_holds_session (hmap : IsTextMap Shows) {store : σ} {map : TextMap}
    (hstore : Shows store map) :
    ∃ context, SessionContext.restore store = .ok context ∧
      ∀ (config : Config) (es : List Event),
        let now := ((start config context).run es).context
        ∃ again, SessionContext.restore now.store = .ok again ∧ again.session = now.session := by
  obtain ⟨context, hrestore, hcontext, hsession⟩ := hmap.restore hstore
  refine ⟨context, hrestore, ?_⟩
  intro config es now
  have hinitial : context.Mirrored Shows := ⟨map, hcontext ▸ hstore, hsession⟩
  have hrun : now.Mirrored Shows := by
    refine run_induction (P := fun g : Gateway σ => g.context.Mirrored Shows) hinitial ?_ es
    intro g e hg
    rw [step_context]
    exact hg.edited hmap (g.change? e)
  obtain ⟨texts, hshows, hheld⟩ := hrun
  obtain ⟨again, hagain, -, hread⟩ := hmap.restore hshows
  exact ⟨again, hagain, hread.trans hheld.symm⟩

/-- A store in memory with a user that cannot be read. -/
def unreadableUser : MemoryStore := ⟨[("current_user", "\x7b"), ("jwt_token", "a")]⟩

/-- Somebody signs in, and is held by the store as they are in memory. -/
theorem store_holds_sign_in :
    unreadableUser.Shows unreadableUser.entries.get? ∧
    ∃ context, SessionContext.restore unreadableUser = .ok context ∧
      let now := ((start lookupConfig context).run [.login 0 "c@x" "p",
        .answer 0 (tokensAnswer "c" "s"), .answer 0 (.ok ⟨200, "\x7b\"id\":7\x7d"⟩)]).context
      ∃ again, SessionContext.restore now.store = .ok again ∧ again.session = now.session := by
  have hshows : unreadableUser.Shows unreadableUser.entries.get? := rfl
  obtain ⟨context, hrestore, h⟩ := store_holds_session MemoryStore.isTextMap hshows
  exact ⟨hshows, context, hrestore, h lookupConfig _⟩

end Gateway

end AccessConsole
