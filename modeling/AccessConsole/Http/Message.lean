import AccessConsole.Json.Untyped
import AccessConsole.Text.Bytes

/-!
# Requests and responses

* `Method` — the method of a request, and `Method.ofText?` for one that is typed in.
* `Request` — an API call as data, so that it can be kept and sent again.
* `Request.withBearer?` — the same call with an access token.
* `Response` — an answer, of whatever status.
-/

namespace AccessConsole

/-! ## Methods -/

/-- A request method. -/
structure Method where
  name : String
  deriving DecidableEq, Repr

namespace Method

def get : Method := ⟨"GET"⟩
def post : Method := ⟨"POST"⟩
def put : Method := ⟨"PUT"⟩
def patch : Method := ⟨"PATCH"⟩
def delete : Method := ⟨"DELETE"⟩

/-- The characters of a token: letters, digits and some punctuation, ASCII only. -/
def isTokenChar (c : Char) : Bool :=
  c.isAlphanum || "!#$%&'*+-.^_`|~".toList.contains c

/-- The method that a text names: letters count in upper case, and the text has to be a token
(`parse_method`). -/
def ofText? (raw : String) : Option Method :=
  let cs := raw.toList.map Char.toUpper
  if !cs.isEmpty && cs.all isTokenChar then some ⟨String.ofList cs⟩ else none

end Method

/-! ## Header values -/

/-- The bytes that a header value may hold: tab, and all from space on but delete. -/
def isHeaderByte (b : UInt8) : Bool := b = 9 || (32 ≤ b && b ≠ 127)

/-- A header value, if the bytes are legal there. -/
def headerValue? (bytes : Bytes) : Option Bytes :=
  if bytes.all isHeaderByte then some bytes else none

/-- The text of a header value; none if it holds a byte outside visible ASCII, space and tab. -/
def headerText? (bytes : Bytes) : Option String :=
  if bytes.all fun b => b = 9 || (32 ≤ b && b < 127) then Bytes.text? bytes else none

/-! ## Requests -/

/-- An API call (`ApiRequest`). Header names are in lower case, and no name stands twice. -/
structure Request where
  method : Method
  url : String
  headers : List (String × Bytes) := []
  query : List (String × String) := []
  body : Option Json := none
  deriving BEq, Repr

namespace Request

/-- The name of the header that carries credentials. -/
def authorizationName : String := "authorization"

/-- A call without headers, query and body (`new` of `ApiRequest`). -/
def new (method : Method) (url : String) : Request := { method, url }

/-- The call with one more pair in its query (`query`). -/
def withQuery (r : Request) (key value : String) : Request :=
  { r with query := r.query ++ [(key, value)] }

/-- The call with more pairs in its query. -/
def withPairs (r : Request) (pairs : List (String × String)) : Request :=
  pairs.foldl (fun r pair => r.withQuery pair.1 pair.2) r

/-- The call with a header, in the place of any header of that name (`header`). -/
def withHeader (r : Request) (name : String) (value : Bytes) : Request :=
  let name := String.ofList (name.toList.map Char.toLower)
  { r with headers := r.headers.filter (·.1 ≠ name) ++ [(name, value)] }

/-- The call with a body (`json` of `ApiRequest`). -/
def withJson (r : Request) (body : Json) : Request := { r with body := some body }

/-- The value of the header that carries an access token. -/
def bearer (token : String) : Bytes := Bytes.ofText ("Bearer " ++ token)

/-- The call with an access token; none if the token may not stand in a header (`with_bearer`). -/
def withBearer? (r : Request) (token : String) : Option Request :=
  (headerValue? (bearer token)).map (r.withHeader authorizationName)

/-- The text of the header that carries credentials (`authorization`). -/
def authorization? (r : Request) : Option String :=
  (r.headers.find? (·.1 = authorizationName)).bind fun h => headerText? h.2

end Request

/-! ## Responses -/

/-- An answer to a call (`ApiResponse`). -/
structure Response where
  status : Nat
  body : String
  deriving DecidableEq, Repr

/-- The status tells of success (`is_success`). -/
def Response.isSuccess (r : Response) : Bool := 200 ≤ r.status && r.status < 300

end AccessConsole
