import AccessConsole.Http.Message
import AccessConsole.Store.Basic

/-!
# Failures of API calls

* `AuthFailure` — why nobody is signed in any more.
* `GatewayError` — why a call failed, with its wording and the status that it carries.
* `Response.result` — what a status means.
-/

namespace AccessConsole

/-- Why nobody is signed in any more (the texts of `AuthenticationFailed`). -/
inductive AuthFailure
  /-- A sign-in was turned down; the server may say why. -/
  | rejected (detail : Option String)
  /-- There was no refresh token to get a new access token with. -/
  | noRefreshToken
  | refreshRejected (status : Nat)
  | refreshFailed (text : String)
  | refreshUnreadable
  /-- The call that was getting a new access token went away. -/
  | abandoned
  /-- The session ended while somebody signed in. -/
  | endedDuringLogin
  deriving DecidableEq, Repr

/-- The wording of a document that cannot be read. The place of the fault is not told. -/
def decodeMessage : String := "response decode failed: <json>"

/-- The wording of a reason. -/
def AuthFailure.message : AuthFailure → String
  | .rejected detail => detail.getD "invalid credentials"
  | .noRefreshToken => "no refresh token available"
  | .refreshRejected status => "refresh rejected with status " ++ Text.Decimal.text status
  | .refreshFailed text => "refresh request failed: " ++ text
  | .refreshUnreadable => "refresh response unreadable: " ++ decodeMessage
  | .abandoned => "token refresh was abandoned"
  | .endedDuringLogin => "session ended during login"

/-- Why a call failed (`GatewayError`). -/
inductive GatewayError
  /-- No answer arrived. -/
  | transport (text : String)
  /-- The server turned the call down for want of credentials. -/
  | unauthorized (body : String)
  | authenticationFailed (reason : AuthFailure)
  /-- Any other answer that is no success. -/
  | http (status : Nat) (body : String)
  /-- The answer is not the document that was expected. -/
  | decode
  /-- The access token may not stand in a header. -/
  | invalidHeader
  | storage (error : StoreError)
  deriving DecidableEq, Repr

namespace GatewayError

/-- The wording of a failure. -/
def message : GatewayError → String
  | .transport text => "transport failed: " ++ text
  | .unauthorized body => "unauthorized: " ++ body
  | .authenticationFailed reason => "authentication failed: " ++ reason.message
  | .http status body => "http status " ++ Text.Decimal.text status ++ ": " ++ body
  | .decode => decodeMessage
  | .invalidHeader => "invalid header value: failed to parse header value"
  | .storage error => error.message

/-- The status of the answer that a failure comes from (`status`). -/
def status? : GatewayError → Option Nat
  | .unauthorized _ => some 401
  | .http status _ => some status
  | _ => none

/-- Somebody has to sign in again (`requires_reauthentication`). -/
def needsLogin : GatewayError → Bool
  | .authenticationFailed _ => true
  | _ => false

end GatewayError

/-- An answer of a call, or why there is none. -/
abbrev CallResult := Except GatewayError Response

/-- What a status means for the call (`into_result`). -/
def Response.result (r : Response) : CallResult :=
  if r.isSuccess then .ok r
  else if r.status = 401 then .error (.unauthorized r.body)
  else .error (.http r.status r.body)

end AccessConsole
