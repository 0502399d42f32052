import AccessConsole.Http.Address
import AccessConsole.Json.Printer
import AccessConsole.Text.Blank
import AccessConsole.Text.Lossy

/-!
# Requests and responses as bytes

* `Request.wire` — the bytes of a request to an address.
* `Response.ofWire?` — the response that bytes spell.

A connection carries one request and its response.
-/

namespace AccessConsole

/-! ## Requests -/

namespace Request

/-- A header that a request gets unless it has one of that name. -/
def default (r : Request) (name value : String) : List (String × Bytes) :=
  if r.headers.any (·.1 = name) then [] else [(name, Bytes.ofText value)]

/-- The bytes of the body. -/
def content (r : Request) : Bytes := ((r.body.map Json.compact).map Bytes.ofText).getD []

/-- All headers of a request. A request that could have a body tells its length. -/
def wireHeaders (r : Request) (a : Address) : List (String × Bytes) :=
  let authority :=
    if a.port = Address.defaultPort then a.host
    else a.host ++ ":" ++ Text.Decimal.text a.port.toNat
  let length :=
    if r.body.isSome || (r.method ≠ .get && r.method.name ≠ "HEAD") then
      [("content-length", Bytes.ofText (Text.Decimal.text r.content.length))]
    else []
  r.headers ++ r.default "accept" "*/*" ++
    (if r.body.isSome then r.default "content-type" "application/json" else []) ++
    [("host", Bytes.ofText authority)] ++ length ++ [("connection", Bytes.ofText "close")]

/-- The bytes of a request to an address. -/
def wire (r : Request) (a : Address) : Bytes :=
  let line (b : Bytes) : Bytes := b ++ [13, 10]
  line (Bytes.ofText (r.method.name ++ " " ++ a.target ++ " HTTP/1.1")) ++
    (r.wireHeaders a).flatMap (fun h => line (Bytes.ofText (h.1 ++ ": ") ++ h.2)) ++
    line [] ++ r.content

end Request

/-! ## Responses -/

namespace Response

/-- The first line, without what ends it, and the bytes after it. -/
def takeLine (b : Bytes) : Option (Bytes × Bytes) :=
  match b.dropWhile (· ≠ 10) with
  | [] => none
  | _ :: rest =>
    let line := b.takeWhile (· ≠ 10)
    some (if line.getLast? = some 13 then line.dropLast else line, rest)

/-- The lines up to an empty one, and the bytes after that; a response has `limit` lines at
most. -/
def head? : Nat → Bytes → Option (List Bytes × Bytes)
  | 0, _ => none
  | limit + 1, b => do
    let (line, rest) ← takeLine b
    if line.isEmpty then return ([], rest)
    let (lines, rest) ← head? limit rest
    return (line :: lines, rest)

/-- The status that the first line tells. -/
def status? (line : Bytes) : Option Nat :=
  match Text.splitAt ' ' line.lossyChars with
  | version :: code :: _ =>
    if "HTTP/".toList.isPrefixOf version && code.length = 3 then Text.Decimal.natural? code
    else none
  | _ => none

/-- A header with its name in lower case. -/
def header (line : Bytes) : String × String :=
  let cs := line.lossyChars
  (String.ofList ((cs.takeWhile (· ≠ ':')).map Char.toLower),
    String.ofList (Text.trimChars ((cs.dropWhile (· ≠ ':')).drop 1)))

/-- The number that hexadecimal digits spell; an extension may follow it. -/
def chunkSize? (line : Bytes) : Option Nat :=
  let digits := (Text.trimChars (line.lossyChars.takeWhile (· ≠ ';'))).map Json.hexValue?
  if digits.isEmpty then none
  else digits.foldlM (fun n d => d.map (16 * n + ·)) 0

/-- A body that comes in chunks, each after its size, up to one of size zero. -/
def chunks? : Nat → Bytes → Option Bytes
  | 0, _ => none
  | limit + 1, b => do
    let (line, rest) ← takeLine b
    let size ← chunkSize? line
    if size = 0 then return []
    guard (size ≤ rest.length)
    let (_, after) ← takeLine (rest.drop size)
    return rest.take size ++ (← chunks? limit after)

/-- The answers to this method, and those with this status, have no body. -/
def bodiless (method : Method) (status : Nat) : Bool :=
  method.name = "HEAD" || status = 204 || status = 304

/-- The response that bytes spell, up to the end of the connection; none if it is not complete. -/
def ofWire? (method : Method) (b : Bytes) : Option Response := do
  let (lines, rest) ← head? b.length b
  let status ← status? (← lines.head?)
  let headers := lines.tail.map header
  let value? (name : String) := (headers.find? (·.1 = name)).map (·.2)
  if bodiless method status then return ⟨status, ""⟩
  let chunked := (value? "transfer-encoding").any fun v =>
    Text.endsWith (String.ofList (v.toList.map Char.toLower)) "chunked"
  if chunked then return ⟨status, (← chunks? (rest.length + 1) rest).lossyText⟩
  match (value? "content-length").bind fun v => Text.Decimal.natural? v.toList with
  | some length =>
    guard (length ≤ rest.length)
    return ⟨status, Bytes.lossyText (rest.take length)⟩
  | none => return ⟨status, Bytes.lossyText rest⟩

end Response

end AccessConsole
