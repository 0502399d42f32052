import AccessConsole.Resource.Operation
import AccessConsole.Text.Quoted

/-!
# Failures of commands

* `CommandError` — why a command fails, with its wording.
* `Diagnosis`, `CommandError.diagnosis` — a failure as its causes, one inside another, the way it
  is reported when the program ends.
-/

namespace AccessConsole

/-- Why a command fails (`CliError`). -/
inductive CommandError
  | console (error : ConsoleError)
  | gateway (error : GatewayError)
  | invalidMethod (raw : String)
  /-- The body of a call is no document. -/
  | invalidJson
  /-- The password that was entered is no text. -/
  | unreadablePassword
  | missingPassword
  | notLoggedIn
  deriving DecidableEq, Repr

/-- The wording of a failure. The place of a fault in a document is not told. -/
def CommandError.message : CommandError → String
  | .console e => e.message
  | .gateway e => e.message
  | .invalidMethod raw => "invalid HTTP method: " ++ raw
  | .invalidJson => "invalid JSON payload: <json>"
  | .unreadablePassword => "could not read password: " ++ AccessError.notText.message
  | .missingPassword =>
    "no password given; pass --password, set RADIUS_CONSOLE_PASSWORD or pipe it on stdin"
  | .notLoggedIn => "not logged in; run `radius-console login` first"

/-! ## Causes -/

/-- The text of a failure and its causes. It breaks off where a cause comes from outside. -/
structure Diagnosis where
  text : String
  brokenOff : Bool := false
  deriving DecidableEq, Repr

namespace Diagnosis

/-- A cause that tells nothing more than its name. -/
def plain (name : String) : Diagnosis := { text := name }

/-- A cause from outside, which is not told. -/
def outside : Diagnosis := ⟨"...", true⟩

/-- A failure with its cause. -/
def because (name : String) (cause : Diagnosis) : Diagnosis :=
  ⟨name ++ "(" ++ cause.text ++ if cause.brokenOff then "" else ")", cause.brokenOff⟩

/-- A failure whose cause is a text. -/
def saying (name text : String) : Diagnosis := because name (plain (Text.quoted text))

/-- A failure with named particulars. -/
def having (name : String) (particulars : List (String × String)) : Diagnosis :=
  plain (name ++ " \x7b " ++
    ", ".intercalate (particulars.map fun p => p.1 ++ ": " ++ p.2) ++ " \x7d")

end Diagnosis

/-- The causes of a failure to read or write. -/
def AccessError.diagnosis : AccessError → Diagnosis
  | .refused _ => .outside
  | .notText => report "InvalidData" .notText
  | .zeroByte => report "InvalidInput" .zeroByte
where
  report (kind : String) (error : AccessError) : Diagnosis :=
    .having "Error" [("kind", kind), ("message", Text.quoted error.message)]

/-- The causes of a failure of a store. -/
def StoreError.diagnosis : StoreError → Diagnosis
  | .io error => .because "Io" error.diagnosis
  | .corrupt => .because "Format" .outside

/-- The causes of a failed call. -/
def GatewayError.diagnosis : GatewayError → Diagnosis
  | .transport _ => .because "Transport" .outside
  | .unauthorized body => .having "Unauthorized" [("body", Text.quoted body)]
  | .authenticationFailed reason => .saying "AuthenticationFailed" reason.message
  | .http status body =>
    .having "Http" [("status", Text.Decimal.text status), ("body", Text.quoted body)]
  | .decode => .because "Decode" .outside
  | .invalidHeader => .because "InvalidHeader" (.plain "InvalidHeaderValue")
  | .storage error => .because "Storage" error.diagnosis

/-- The causes of a failed operation. -/
def ConsoleError.diagnosis : ConsoleError → Diagnosis
  | .gateway e => .because "Gateway" e.diagnosis
  | .invalidInput i => .saying "InvalidInput" i.message

/-- The causes of a failed command. -/
def CommandError.diagnosis : CommandError → Diagnosis
  | .console e => .because "Console" e.diagnosis
  | .gateway e => .because "Gateway" e.diagnosis
  | .invalidMethod raw => .saying "InvalidMethod" raw
  | .invalidJson => .because "InvalidJson" .outside
  | .unreadablePassword => .because "Io" AccessError.notText.diagnosis
  | .missingPassword => .plain "MissingPassword"
  | .notLoggedIn => .plain "NotLoggedIn"

end AccessConsole
