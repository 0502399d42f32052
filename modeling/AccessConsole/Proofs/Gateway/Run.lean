import AccessConsole.Proofs.Gateway.Calls
import Mathlib.Data.List.Induction

/-!
# Runs of a gateway

A run is any list of events: calls begin, requests are answered in any way, calls of the queue go
on, calls go away and the session changes, in any order. What can be seen of a run from outside is
read off its history.

* `Gateway.start` — a gateway of which nothing has been asked yet.
* `Gateway.run`, `Gateway.history` — the gateway after events, and what happened on the way.
* `Moment` — an event with the gateway that it happens to.
* `Event.subject?`, `Event.started?` — the call that an event is about, and the one that it begins.
* `requestsFor`, `resultsFor`, `wokenBy` — what is sent for a call, how it ends, and who is woken.
* `Moment.refreshCalls`, `Moment.arrivals` — the requests for new tokens that a step sends, and the
  calls that begin to wait in it.
* `begun`, `sentFor`, `answersAt`, `resultsOf`, `refreshCallsOf` — the same over a whole run.
* `sampleConfig`, `sampleContext` — a small gateway with a session, for single runs.
-/

namespace AccessConsole

variable {σ : Type}

/-- A gateway with a session, before its first call. -/
def Gateway.start (config : Config) (context : SessionContext σ) : Gateway σ := { config, context }

/-- The call leads a refresh. -/
def Gateway.leads (g : Gateway σ) (id : CallId) : Bool :=
  (g.call? id).any fun call => call.stage = .leading

/-- The call that an event is about; a change of the session is about none. -/
def Event.subject? : Event → Option CallId
  | .send id _ => some id
  | .login id _ _ => some id
  | .answer id _ => some id
  | .resume id => some id
  | .cancel id => some id
  | .change _ => none

/-- The call that an event begins, with its purpose. -/
def Event.started? : Event → Option (CallId × Purpose)
  | .send id _ => some (id, .send)
  | .login id email _ => some (id, .login email)
  | _ => none

/-- An event that is about a call and does not begin it. -/
theorem Event.cases_of_subject {e : Event} {id : CallId} (hid : e.subject? = some id)
    (he : ∀ purpose, e.started? ≠ some (id, purpose)) :
    (∃ answer, e = .answer id answer) ∨ e = .resume id ∨ e = .cancel id := by
  cases e with
  | send _ _ =>
    cases hid
    exact absurd rfl (he .send)
  | login _ email _ =>
    cases hid
    exact absurd rfl (he (.login email))
  | answer _ answer =>
    cases hid
    exact .inl ⟨answer, rfl⟩
  | resume _ =>
    cases hid
    exact .inr (.inl rfl)
  | cancel _ =>
    cases hid
    exact .inr (.inr rfl)
  | change _ => cases hid

/-- The call that an event sends, with its request. -/
def Event.begun? : Event → Option (CallId × Request)
  | .send id request => some (id, request)
  | _ => none

/-- The call whose suspension an event ends: its request is answered, or it goes away. -/
def Event.ended? : Event → Option CallId
  | .answer id _ => some id
  | .cancel id => some id
  | _ => none

/-- The call that an event takes away. -/
def Event.cancelled? : Event → Option CallId
  | .cancel id => some id
  | _ => none

theorem Event.subject_of_begun {e : Event} {id : CallId} {request : Request}
    (h : e.begun? = some (id, request)) : e.subject? = some id := by
  cases e with
  | send j r =>
    cases h
    rfl
  | _ => cases h

theorem Event.subject_of_ended {e : Event} {id : CallId} (h : e.ended? = some id) :
    e.subject? = some id := by
  cases e <;> first | exact h | cases h

/-! ## Steps -/

/-- The requests sent for a call, its own ones and those for new tokens, in order. -/
def requestsFor (id : CallId) (effects : List Effect) : List Request :=
  effects.filterMap fun
    | .dispatch i request => if i = id then some request else none
    | _ => none

/-- The results with which a call ends. -/
def resultsFor (id : CallId) (effects : List Effect) : List (Except GatewayError Reply) :=
  effects.filterMap fun
    | .finish i result => if i = id then some result else none
    | _ => none

/-- The calls of the queue that may go on, in order. -/
def wokenBy (effects : List Effect) : List CallId :=
  effects.filterMap fun
    | .wake id => some id
    | _ => none

theorem mem_wokenBy {effects : List Effect} {id : CallId} :
    id ∈ wokenBy effects ↔ .wake id ∈ effects := by
  unfold wokenBy
  rw [List.mem_filterMap]
  constructor
  · rintro ⟨e, he, hw⟩
    cases e with
    | wake j =>
      cases hw
      exact he
    | _ => cases hw
  · intro h
    exact ⟨.wake id, h, rfl⟩

/-- The requests for new tokens that a move sends, each with the call that leads. -/
def Gateway.refreshCalls (moved : Moved σ) : List (CallId × Request) :=
  moved.2.filterMap fun
    | .dispatch id request => if moved.1.leads id then some (id, request) else none
    | _ => none

/-- A gateway, and the event that happens to it. -/
structure Moment (σ : Type) where
  before : Gateway σ
  event : Event

/-- The answer that arrives for a call whose stage passes a test. -/
def Moment.answer? (m : Moment σ) (p : Stage → Bool) : Option (CallId × Except String Response) :=
  match m.event with
  | .answer id answer =>
    if (m.before.call? id).any fun c => p c.stage then some (id, answer) else none
  | _ => none

theorem Moment.of_answer {m : Moment σ} {p : Stage → Bool} {id : CallId}
    {answer : Except String Response} (h : m.answer? p = some (id, answer)) :
    m.event = .answer id answer ∧ ∃ c, m.before.call? id = some c ∧ p c.stage = true := by
  unfold Moment.answer? at h
  split at h
  · rename_i he
    split_ifs at h with hp
    cases h
    exact ⟨he, (Option.any_eq_true _ _).1 hp⟩
  · cases h

theorem Moment.subject_of_answer {m : Moment σ} {p : Stage → Bool} {id : CallId}
    {answer : Except String Response} (h : m.answer? p = some (id, answer)) :
    m.event.subject? = some id := by
  rw [(Moment.of_answer h).1]
  rfl

theorem Moment.answer?_eq {m : Moment σ} {id : CallId} {answer : Except String Response} {c : Call}
    (he : m.event = .answer id answer) (hc : m.before.call? id = some c) (p : Stage → Bool) :
    m.answer? p = if p c.stage then some (id, answer) else none := by
  unfold Moment.answer?
  rw [he]
  simp only [hc, Option.any_some]

variable [KeyStore σ]

namespace Moment

/-- The gateway after the event. -/
def after (m : Moment σ) : Gateway σ := (m.before.step m.event).1

/-- What the gateway wants done, in order. -/
def effects (m : Moment σ) : List Effect := (m.before.step m.event).2

/-- The requests for new tokens that are sent. -/
def refreshCalls (m : Moment σ) : List (CallId × Request) :=
  Gateway.refreshCalls (m.before.step m.event)

/-- The calls that begin to wait for a refresh. -/
def arrivals (m : Moment σ) : List CallId :=
  m.after.waiting.filter (· ∉ m.before.waiting)

end Moment

/-! ## Runs -/

namespace Gateway

/-- The gateway after events. -/
def run (g : Gateway σ) (es : List Event) : Gateway σ := es.foldl (fun g e => (g.step e).1) g

/-- What happens in a run, in order. -/
def history (g : Gateway σ) : List Event → List (Moment σ)
  | [] => []
  | e :: es => ⟨g, e⟩ :: history (g.step e).1 es

@[simp] theorem run_nil (g : Gateway σ) : g.run [] = g := rfl

theorem run_append (g : Gateway σ) (es fs : List Event) : g.run (es ++ fs) = (g.run es).run fs :=
  List.foldl_append

theorem run_concat (g : Gateway σ) (es : List Event) (e : Event) :
    g.run (es ++ [e]) = ((g.run es).step e).1 := by
  rw [run_append]
  rfl

@[simp] theorem history_nil (g : Gateway σ) : g.history [] = [] := rfl

theorem history_append (g : Gateway σ) (es fs : List Event) :
    g.history (es ++ fs) = g.history es ++ (g.run es).history fs := by
  induction es generalizing g with
  | nil => rfl
  | cons e es ih =>
    simp only [List.cons_append, history]
    rw [ih]
    rfl

theorem history_concat (g : Gateway σ) (es : List Event) (e : Event) :
    g.history (es ++ [e]) = g.history es ++ [⟨g.run es, e⟩] := by
  rw [history_append]
  rfl

@[simp] theorem map_event_history (g : Gateway σ) (es : List Event) :
    (g.history es).map Moment.event = es := by
  induction es generalizing g with
  | nil => rfl
  | cons e es ih =>
    rw [history, List.map_cons, ih]

omit [KeyStore σ] in
/-- What has happened stays so as the history goes on. -/
theorem happened_concat {history : List (Moment σ)} {p : Moment σ → Prop}
    (h : ∃ n ∈ history, p n) (m : Moment σ) : ∃ n ∈ history ++ [m], p n := by
  obtain ⟨n, hn, hp⟩ := h
  exact ⟨n, List.mem_append_left _ hn, hp⟩

/-- Where what happens in a run falls into two parts, so does the run. -/
theorem history_split {g : Gateway σ} {es : List Event} {earlier later : List (Moment σ)}
    (h : g.history es = earlier ++ later) :
    ∃ es₁ es₂, es = es₁ ++ es₂ ∧ earlier = g.history es₁ ∧ later = (g.run es₁).history es₂ := by
  induction earlier generalizing g es with
  | nil => exact ⟨[], es, rfl, rfl, h.symm⟩
  | cons m earlier ih =>
    cases es with
    | nil => cases h
    | cons e es =>
      obtain ⟨rfl, hrest⟩ := List.cons_eq_cons.1 h
      obtain ⟨es₁, es₂, rfl, rfl, hlater⟩ := ih hrest
      exact ⟨e :: es₁, es₂, rfl, rfl, hlater⟩

/-- A moment of a run comes after a part of the run, and what follows happens in the rest of it. -/
theorem history_around {g : Gateway σ} {es : List Event} {earlier later : List (Moment σ)}
    {m : Moment σ} (h : g.history es = earlier ++ m :: later) :
    ∃ es₁ es₂, earlier = g.history es₁ ∧ m.before = g.run es₁ ∧ later = m.after.history es₂ := by
  obtain ⟨es₁, es₂, -, hearlier, hm⟩ := history_split h
  cases es₂ with
  | nil => cases hm
  | cons e es₂ =>
    obtain ⟨rfl, hlater⟩ := List.cons_eq_cons.1 hm
    exact ⟨es₁, es₂, hearlier, rfl, hlater⟩

/-- The beginning of what happens in a run is what happens in the beginning of the run. -/
theorem history_of_prefix {g : Gateway σ} {es : List Event} {upTo : List (Moment σ)}
    (h : upTo <+: g.history es) : ∃ es', es' <+: es ∧ upTo = g.history es' := by
  obtain ⟨later, hlater⟩ := h
  obtain ⟨es₁, es₂, rfl, hupTo, -⟩ := history_split hlater.symm
  exact ⟨es₁, List.prefix_append _ _, hupTo⟩

/-- The requests sent for a call in a run, in order. -/
def sentFor (id : CallId) (history : List (Moment σ)) : List Request :=
  history.flatMap fun m => requestsFor id m.effects

theorem sentFor_concat (id : CallId) (history : List (Moment σ)) (m : Moment σ) :
    sentFor id (history ++ [m]) = sentFor id history ++ requestsFor id m.effects := by
  unfold sentFor
  simp

/-- The results with which a call ends in a run. -/
def resultsOf (id : CallId) (history : List (Moment σ)) : List (Except GatewayError Reply) :=
  history.flatMap fun m => resultsFor id m.effects

theorem resultsOf_concat (id : CallId) (history : List (Moment σ)) (m : Moment σ) :
    resultsOf id (history ++ [m]) = resultsOf id history ++ resultsFor id m.effects := by
  unfold resultsOf
  simp

/-- The requests for new tokens that are sent in a run, in order. -/
def refreshCallsOf (history : List (Moment σ)) : List (CallId × Request) :=
  history.flatMap Moment.refreshCalls

theorem refreshCallsOf_concat (history : List (Moment σ)) (m : Moment σ) :
    refreshCallsOf (history ++ [m]) = refreshCallsOf history ++ m.refreshCalls := by
  unfold refreshCallsOf
  simp

omit [KeyStore σ] in
/-- The calls that are sent in a run, in order. -/
def begun (history : List (Moment σ)) : List (CallId × Request) :=
  history.filterMap fun m => m.event.begun?

omit [KeyStore σ] in
theorem begun_concat (history : List (Moment σ)) (m : Moment σ) :
    begun (history ++ [m]) = begun history ++ m.event.begun?.toList := by
  unfold begun
  rw [List.filterMap_append]
  cases h : m.event.begun? <;> simp [h]

omit [KeyStore σ] in
theorem mem_begun_concat {history : List (Moment σ)} {id : CallId} {request : Request}
    (h : (id, request) ∈ begun history) (m : Moment σ) :
    (id, request) ∈ begun (history ++ [m]) := by
  rw [begun_concat]
  exact List.mem_append_left _ h

omit [KeyStore σ] in
theorem mem_begun_of_ne {g : Gateway σ} {history : List (Moment σ)} {e : Event} {id j : CallId}
    {request : Request} (he : e.subject? = some id) (hne : j ≠ id) :
    (j, request) ∈ begun (history ++ [⟨g, e⟩]) ↔ (j, request) ∈ begun history := by
  rw [begun_concat, List.mem_append]
  constructor
  · rintro (hold | hnew)
    · exact hold
    · have hj := Event.subject_of_begun (Option.mem_toList.1 hnew)
      rw [he] at hj
      cases hj
      exact absurd rfl hne
  · exact Or.inl

omit [KeyStore σ] in
theorem eq_of_mem_begun {history : List (Moment σ)}
    (hd : ((begun history).map fun b => b.1).Nodup) {id : CallId}
    {request request' : Request} (h : (id, request) ∈ begun history)
    (h' : (id, request') ∈ begun history) : request = request' :=
  congrArg Prod.snd (List.inj_on_of_nodup_map hd h h' rfl)

omit [KeyStore σ] in
/-- The answers that arrive in a run for calls whose stage passes a test, in order. -/
def answersAt (p : Stage → Bool) (history : List (Moment σ)) :
    List (CallId × Except String Response) :=
  history.filterMap fun m => m.answer? p

omit [KeyStore σ] in
theorem answersAt_concat (p : Stage → Bool) (history : List (Moment σ)) (m : Moment σ) :
    answersAt p (history ++ [m]) = answersAt p history ++ (m.answer? p).toList := by
  unfold answersAt
  rw [List.filterMap_append]
  cases h : m.answer? p <;> simp [h]

/-- What holds before the first call and is kept by every step holds in every run. -/
theorem run_induction {P : Gateway σ → Prop} {g : Gateway σ} (hg : P g)
    (hstep : ∀ g e, P g → P (g.step e).1) (es : List Event) : P (g.run es) := by
  induction es using List.reverseRecOn with
  | nil => exact hg
  | append_singleton es e ih =>
    rw [run_concat]
    exact hstep _ e ih

/-! A small gateway, for single runs. -/

def sampleConfig : Config := ⟨"u", [], "login/", "refresh/", none, 0, 0⟩

/-- With a lookup of who has signed in. -/
def lookupConfig : Config := { sampleConfig with profilePath := some "me/" }

/-- A session with the access token `a`. -/
def sampleContext : SessionContext MemoryStore :=
  { store := {}, session := { access := some "a", refresh := some "r" }, status := .authenticated }

/-- The answer to a sign-in. -/
def tokensAnswer (access refresh : String) : Except String Response :=
  .ok ⟨200, "\x7b\"access\":\"" ++ access ++ "\",\"refresh\":\"" ++ refresh ++ "\"\x7d"⟩

end Gateway

end AccessConsole
