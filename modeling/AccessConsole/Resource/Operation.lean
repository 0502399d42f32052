import AccessConsole.Gateway.Config
import AccessConsole.Gateway.Error
import AccessConsole.Json.Codec
import AccessConsole.Resource.Route

/-!
# Operations on resources

* `Operation` — something that can be done in the API: an endpoint, a body, and what the answer
  is read as.
* `Operation.request` — the call that does it.
* `Operation.result` — what the call comes to.
* `InvalidInput`, `ConsoleError` — what is refused before a call is made, and why an operation
  fails.
* `Json.given` — bodies that leave out the values not given.
-/

namespace AccessConsole

/-- The object of the members that have a value, in this order. -/
def Json.given (members : List (String × Option Json)) : Json :=
  .record (members.filterMap fun m => m.2.map (m.1, ·))

/-- An operation with a result of type `α`. -/
structure Operation (α : Type) where
  endpoint : Endpoint
  body : Option Json
  /-- The result in the body of an answer. -/
  read? : String → Option α
  /-- The document of a result. -/
  write : α → Json

namespace Operation

variable {α : Type}

/-- An operation whose result is the document of the answer (`fetch`). -/
def fetch (endpoint : Endpoint) (codec : Codec α) (body : Option Json := none) : Operation α :=
  ⟨endpoint, body, codec.decode?, codec.write⟩

/-- An operation without a result; the body of the answer is not looked at (`execute`). -/
def execute (endpoint : Endpoint) (body : Option Json := none) : Operation Unit :=
  ⟨endpoint, body, fun _ => some (), fun _ => .null⟩

/-- The body of an operation that needs no values (`action`). -/
def emptyBody : Option Json := some (.record [])

/-- The call that does an operation. -/
def request (op : Operation α) (c : Config) : Request :=
  let route := op.endpoint.route
  let asking := (Request.new route.method (c.endpoint route.path)).withPairs route.query
  match op.body with
  | some body => asking.withJson body
  | none => asking

/-- What the call of an operation comes to. -/
def result (op : Operation α) : CallResult → Except GatewayError α
  | .error e => .error e
  | .ok response =>
    match op.read? response.body with
    | some a => .ok a
    | none => .error .decode

end Operation

/-! ## Refused input -/

/-- Why an operation is refused before a call is made (`InvalidInput`). -/
inductive InvalidInput
  | newAdminWithoutPassword
  | emptyNewPassword
  | blankKeyName
  | invalidKeyDays (days : UInt16)
  deriving DecidableEq, Repr

/-- The wording of a refusal. -/
def InvalidInput.message : InvalidInput → String
  | .newAdminWithoutPassword => "a new admin needs a password"
  | .emptyNewPassword => "new password must not be empty"
  | .blankKeyName => "API key name must not be empty"
  | .invalidKeyDays days =>
    "validity must be between 1 and 3650 days, got " ++ Text.Decimal.text days.toNat

/-- Why an operation fails (`ConsoleError`). -/
inductive ConsoleError
  | gateway (error : GatewayError)
  | invalidInput (input : InvalidInput)
  deriving DecidableEq, Repr

/-- The wording of a failure. -/
def ConsoleError.message : ConsoleError → String
  | .gateway e => e.message
  | .invalidInput i => "invalid input: " ++ i.message

/-- Somebody has to sign in again (`requires_reauthentication`). -/
def ConsoleError.needsLogin : ConsoleError → Bool
  | .gateway e => e.needsLogin
  | .invalidInput _ => false

end AccessConsole
