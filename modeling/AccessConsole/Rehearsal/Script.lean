import AccessConsole.Http.Message
import AccessConsole.Store.Basic
import AccessConsole.Text.Search

/-!
# Scripted servers and stores

What a gateway does can be rehearsed against a server that answers from a script, and over a store
that refuses what it is told to refuse.

* `Rule`, `Script` — the answers of a server, and `Script.answer` for the next one.
* `RefusingStore` — a store in memory that refuses operations on some keys.
-/

namespace AccessConsole.Rehearsal

/-! ## Servers -/

/-- What the server may look at: method, URL, and the credentials if they are text. -/
structure Sight where
  method : String
  url : String
  authorization : Option String

/-- The sight of a call. -/
def Sight.ofRequest (r : Request) : Sight := ⟨r.method.name, r.url, r.authorization?⟩

/-- An answer that applies where all its conditions hold. A condition that is not given holds. -/
structure Rule where
  /-- The URL holds this text. -/
  url : Option String := none
  /-- The URL ends with this text. -/
  ends : Option String := none
  method : Option String := none
  /-- The credentials are these; `some none` asks for a call without any. -/
  authorization : Option (Option String) := none
  /-- The number of times that the rule still applies. -/
  times : Option Nat := none
  /-- The answer, or the text of the failure to give one. -/
  reply : Except String Response

/-- The conditions of a rule hold. -/
def Rule.applies (rule : Rule) (s : Sight) : Bool :=
  rule.url.all (Text.contains s.url) && rule.ends.all (Text.endsWith s.url) &&
  rule.method.all (· = s.method) && rule.authorization.all (· = s.authorization) &&
  rule.times.all (0 < ·)

/-- The rules of a server; the first that applies counts (the responder of `MockTransport`). -/
abbrev Script := List Rule

namespace Script

/-- The answer where no rule applies. -/
def noRule : Response := ⟨404, "no rule"⟩

/-- The answer of the server, and its rules from then on. -/
def answer (script : Script) (s : Sight) : Except String Response × Script :=
  match script with
  | [] => (.ok noRule, [])
  | rule :: rest =>
    if rule.applies s then (rule.reply, { rule with times := rule.times.map (· - 1) } :: rest)
    else
      let (reply, rest) := answer rest s
      (reply, rule :: rest)

/-- The server that cannot be reached. -/
def unreachable (text : String) : Script := [{ reply := .error text }]

end Script

/-! ## Stores -/

/-- A store in memory that refuses to read, write or remove some keys, and is not changed then. -/
structure RefusingStore where
  entries : Entries := []
  get : List String := []
  set : List String := []
  remove : List String := []
  deriving Repr

/-- The failure of a refused operation. -/
def refusal (operation key : String) : StoreError :=
  .io (.refused (operation ++ " refused: " ++ key))

instance : KeyStore RefusingStore where
  get s key := if key ∈ s.get then .error (refusal "get" key) else .ok (s.entries.get? key)
  set s key value :=
    if key ∈ s.set then (.error (refusal "set" key), s)
    else (.ok (), { s with entries := s.entries.insert key value })
  remove s key :=
    if key ∈ s.remove then (.error (refusal "remove" key), s)
    else (.ok (), { s with entries := s.entries.erase key })

end AccessConsole.Rehearsal
