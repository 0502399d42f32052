import AccessConsole.Gateway.Machine
import AccessConsole.Rehearsal.Script

/-!
# Rehearsals

A rehearsal runs a gateway against a scripted server in a fixed order. Gates hold back requests
until they are let through, so that calls can be brought into any position to one another.

* `Gate` — a hold for requests whose URL holds a text.
* `Rehearsal` — a gateway with its server, its gates and what has happened.
* `Rehearsal.run` — the rehearsal after everything that can go on has gone on.
* `Rehearsal.send`, `login`, `cancel`, `letThrough`, `close` — what can be done from outside.
* `Rehearsal.count` — how many requests were sent to some URLs.

A call goes on without interruption until it waits at a gate or in the queue of the refresh. Calls
that may go on do so in the order in which they were woken. A request is noted before it waits.
-/

namespace AccessConsole

open Rehearsal (Script Sight)

/-- A hold for requests (`gate`). Each takes one permit; those that find none wait in order. -/
structure Gate where
  fragment : String
  permits : Nat := 0
  closed : Bool := false
  waiting : List (CallId × Request) := []

/-- What a woken call goes on with. -/
inductive Woken
  /-- Its request was let through. -/
  | admitted (id : CallId) (request : Request)
  /-- Its gate was closed. -/
  | turnedAway (id : CallId)
  /-- The refresh that it waited for is over. -/
  | released (id : CallId)

/-- A gateway in rehearsal (a `Gateway` over a `MockTransport`). -/
structure Rehearsal (σ : Type) where
  gateway : Gateway σ
  script : Script
  gates : List Gate := []
  woken : List Woken := []
  /-- The requests sent, last one first. -/
  requests : List Request := []
  /-- The calls that are over, last one first. -/
  finished : List (CallId × Except GatewayError Reply) := []

namespace Rehearsal

/-- The failure of a request at a closed gate. -/
def closedGate : String := "mock gate closed"

variable {σ : Type} [KeyStore σ]

/-- An event happens to the gateway. -/
def happen (r : Rehearsal σ) (e : Event) : Rehearsal σ × List Effect :=
  let (gateway, effects) := r.gateway.step e
  ({ r with gateway }, effects)

/-- A request reaches the server and is answered. -/
def serve (r : Rehearsal σ) (id : CallId) (request : Request) : Rehearsal σ × List Effect :=
  let (reply, script) := r.script.answer (Sight.ofRequest request)
  { r with script }.happen (.answer id reply)

/-- A request comes to its gate, the first one whose text its URL holds (`dispatch` of
`MockTransport`). -/
def dispatch (r : Rehearsal σ) (id : CallId) (request : Request) : Rehearsal σ × List Effect :=
  let r := { r with requests := request :: r.requests }
  match r.gates.findIdx? fun gate => Text.contains request.url gate.fragment with
  | none => r.serve id request
  | some i =>
    match r.gates[i]? with
    | none => r.serve id request
    | some gate =>
      if gate.closed then r.happen (.answer id (.error closedGate))
      else if 0 < gate.permits then
        { r with gates := r.gates.set i { gate with permits := gate.permits - 1 } }.serve id request
      else
        let waiting := gate.waiting ++ [(id, request)]
        ({ r with gates := r.gates.set i { gate with waiting } }, [])

/-- An effect is carried out. -/
def perform (r : Rehearsal σ) : Effect → Rehearsal σ × List Effect
  | .dispatch id request => r.dispatch id request
  | .wake id => ({ r with woken := r.woken ++ [.released id] }, [])
  | .finish id result => ({ r with finished := (id, result) :: r.finished }, [])

/-- A woken call goes on. -/
def goOn (r : Rehearsal σ) : Woken → Rehearsal σ × List Effect
  | .admitted id request => r.serve id request
  | .turnedAway id => r.happen (.answer id (.error closedGate))
  | .released id => r.happen (.resume id)

/-- Effects are carried out, and woken calls go on, for a number of moves at most. -/
def runFor : Nat → Rehearsal σ → List Effect → Rehearsal σ
  | 0, r, _ => r
  | n + 1, r, e :: rest =>
    let (r, more) := r.perform e
    runFor n r (more ++ rest)
  | n + 1, r, [] =>
    match r.woken with
    | [] => r
    | w :: rest =>
      let (r, effects) := { r with woken := rest }.goOn w
      runFor n r effects

/-- Everything that can go on goes on. A call makes at most four requests, is woken at most once
for each and twice more, and ends once, so the number of moves is bounded by the calls. -/
def run (r : Rehearsal σ) (effects : List Effect) : Rehearsal σ :=
  runFor (16 * (r.gateway.calls.length + effects.length + r.woken.length + 1)) r effects

/-- An event happens, and everything goes on. -/
def after (r : Rehearsal σ) (e : Event) : Rehearsal σ :=
  let (r, effects) := r.happen e
  r.run effects

/-- A call begins. -/
def send (r : Rehearsal σ) (id : CallId) (request : Request) : Rehearsal σ :=
  r.after (.send id request)

/-- A sign-in begins. -/
def login (r : Rehearsal σ) (id : CallId) (email password : String) : Rehearsal σ :=
  r.after (.login id email password)

/-- A call goes away, also from the gate at which it waits. -/
def cancel (r : Rehearsal σ) (id : CallId) : Rehearsal σ :=
  let gates := r.gates.map fun gate =>
    { gate with waiting := gate.waiting.filter (·.1 ≠ id) }
  { r with gates }.after (.cancel id)

/-- The session is changed from outside. The result tells whether the store took it. -/
def change (r : Rehearsal σ) (change : Change) : Except StoreError Unit × Rehearsal σ :=
  let (result, context) := r.gateway.context.apply change
  (result, { r with gateway := { r.gateway with context } })

/-- A gate lets a number of requests through, waiting ones first (`add_permits`). -/
def letThrough (r : Rehearsal σ) (i : Nat) (count : Nat) : Rehearsal σ :=
  match r.gates[i]? with
  | none => r
  | some gate =>
    let through := gate.waiting.take count
    let gate := { gate with
      waiting := gate.waiting.drop count, permits := gate.permits + (count - through.length) }
    let woken := through.map fun (id, request) => Woken.admitted id request
    { r with gates := r.gates.set i gate, woken := r.woken ++ woken }.run []

/-- A gate closes: requests that wait at it fail, and so do all later ones (`close` of a gate). -/
def close (r : Rehearsal σ) (i : Nat) : Rehearsal σ :=
  match r.gates[i]? with
  | none => r
  | some gate =>
    let woken := gate.waiting.map fun (id, _) => Woken.turnedAway id
    let gate := { gate with waiting := [], closed := true }
    { r with gates := r.gates.set i gate, woken := r.woken ++ woken }.run []

/-- How many requests whose URL holds a text were sent (`count_matching`). -/
def count (r : Rehearsal σ) (fragment : String) : Nat :=
  r.requests.countP fun request => Text.contains request.url fragment

/-- The result of a call that is over. -/
def result? (r : Rehearsal σ) (id : CallId) : Option (Except GatewayError Reply) :=
  (r.finished.find? (·.1 = id)).map (·.2)

end Rehearsal

end AccessConsole
