import AccessConsole.Http.Message
import AccessConsole.Text.Decimal
import AccessConsole.Text.Search

/-!
# Where a request goes

* `Address` — a server, and what is asked of it.
* `formText` — pairs as the query of a URL.
* `Address.ofUrl?` — the address that a URL and the query of a request give.
-/

namespace AccessConsole

/-! ## Characters in URLs -/

/-- A byte as a percent sign and two hexadecimal digits. -/
def percentByte (b : UInt8) : List Char :=
  let digit (n : Nat) : Char := (Json.hexChar n).toUpper
  ['%', digit (b.toNat / 16), digit (b.toNat % 16)]

/-- A text in which only the characters of a class stand for themselves. -/
def percentText (plain : Char → Bool) (cs : List Char) : List Char :=
  cs.flatMap fun c =>
    if plain c then [c] else (Bytes.ofText (String.ofList [c])).flatMap percentByte

/-- The characters that stand for themselves in the key or the value of a pair. -/
def isFormChar (c : Char) : Bool := c.isAlphanum || "*-._".toList.contains c

/-- A key or a value in a query, with a plus sign for each space. -/
def formPart (s : String) : List Char :=
  Text.join ['+'] ((Text.splitAt ' ' s.toList).map (percentText isFormChar))

/-- Pairs as a query. -/
def formText (pairs : List (String × String)) : List Char :=
  Text.join ['&'] (pairs.map fun p => formPart p.1 ++ '=' :: formPart p.2)

/-- A visible ASCII character. -/
def isVisible (c : Char) : Bool := '!'.toNat ≤ c.toNat && c.toNat ≤ '~'.toNat

/-- The characters that stand for themselves in the path of a URL. -/
def isPathChar (c : Char) : Bool :=
  isVisible c && !"\"#<>?^\x60\x7b\x7d".toList.contains c

/-- The characters that stand for themselves in the query of a URL. -/
def isQueryChar (c : Char) : Bool := isVisible c && !"\"#<>'".toList.contains c

/-! ## Addresses -/

/-- A server, and what is asked of it. -/
structure Address where
  host : String
  port : UInt16
  /-- The path and the query. -/
  target : String
  deriving DecidableEq, Repr

namespace Address

/-- The port where none is given. -/
def defaultPort : UInt16 := 80

/-- The way of reaching a server that is known here. -/
def scheme : String := "http://"

/-- A path with its steps to the same and to the upper level taken. -/
def plainPath (path : List Char) : List Char :=
  let steps := (Text.splitAt '/' path).drop 1
  let last := steps.getLast?.getD []
  let taken := steps.foldl (fun (done : List (List Char)) step =>
    if step = ['.'] then done else if step = ['.', '.'] then done.tail else step :: done) []
  let taken := if last = ['.'] ∨ last = ['.', '.'] then [] :: taken else taken
  '/' :: Text.join ['/'] taken.reverse

/-- The host and the port of a server; none if a port is no number of 16 bits. -/
def server? (authority : List Char) : Option (String × UInt16) :=
  let host := authority.takeWhile (· ≠ ':')
  if host.isEmpty then none
  else
    match authority.dropWhile (· ≠ ':') with
    | [] => some (String.ofList host, defaultPort)
    | [_] => some (String.ofList host, defaultPort)
    | _ :: digits =>
      ((Text.Decimal.natural? digits).filter (· < UInt16.size)).map fun n =>
        (String.ofList host, n.toUInt16)

/-- The address that a URL and the query of a request give; pairs of the query come after what
stands in the URL. None if the URL names no server that can be reached. -/
def ofUrl? (url : String) (query : List (String × String)) : Option Address := do
  let cs := url.toList
  guard (scheme.toList.isPrefixOf cs)
  let cs := (cs.drop scheme.length).takeWhile (· ≠ '#')
  let (host, port) ← server? (cs.takeWhile fun c => c ≠ '/' && c ≠ '?')
  let rest := cs.dropWhile fun c => c ≠ '/' && c ≠ '?'
  let path := percentText isPathChar (plainPath (rest.takeWhile (· ≠ '?')))
  let written := ((rest.dropWhile (· ≠ '?')).drop 1)
  let parts := [percentText isQueryChar written, formText query].filter (!·.isEmpty)
  let target := if parts.isEmpty then path else path ++ '?' :: Text.join ['&'] parts
  return ⟨host, port, String.ofList target⟩

end Address

end AccessConsole
