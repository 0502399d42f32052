import AccessConsole.Text.Blank
import AccessConsole.Text.Bytes
import AccessConsole.Text.Decimal
import AccessConsole.Text.Search

/-!
# Configuration

The names in parentheses are those that the program has for what is defined here.

* `Config` — where the API is, which of its URLs are for signing in, and time limits.
* `Config.ofEnvironment` — the configuration that environment variables give.
* `Config.endpoint` — the URL of an API path.
* `Config.isAuthEndpoint` — whether a URL is for signing in.
* `endpointList` — URL parts written with commas between them.
-/

namespace AccessConsole

/-- Environment variables and their values. -/
abbrev Environment := List (String × Bytes)

/-- The text of a variable; none if it is not set or not UTF-8. -/
def Environment.text? (env : Environment) (name : String) : Option String :=
  (env.find? (·.1 = name)).bind fun v => Bytes.text? v.2

/-- Settings of the access to the API (`GatewayConfig`). -/
structure Config where
  /-- The root of the API, without slashes at its end. -/
  apiUrl : String
  /-- A URL that holds one of these parts is for signing in. -/
  authEndpoints : List String
  loginPath : String
  refreshPath : String
  /-- Where the signed-in administrator is looked up, if at all. -/
  profilePath : Option String
  requestSecs : Nat
  connectSecs : Nat
  deriving DecidableEq, Repr

/-- A text without the slashes at its end. -/
def trimSlashes (s : String) : String := String.ofList (Text.dropTrailing (· = '/') s.toList)

/-- The parts of a list written with commas (`parse_endpoint_list`). Blanks around a part do not
count, and a part of nothing but blanks is none. -/
def endpointList (raw : String) : List String :=
  (((Text.splitAt ',' raw.toList).map Text.trimChars).filter (!·.isEmpty)).map String.ofList

namespace Config

def defaultApiUrl : String := "http://127.0.0.1:8000/api"
def defaultAuthEndpoints : List String :=
  ["/auth/token/", "/authentication/token/", "/admin-users/login/"]
def defaultRequestSecs : Nat := 30
def defaultConnectSecs : Nat := 10

/-- The configuration for an API root, all else being default (`new` of `GatewayConfig`). -/
def ofApiUrl (apiUrl : String) : Config where
  apiUrl := trimSlashes apiUrl
  authEndpoints := defaultAuthEndpoints
  loginPath := "/auth/token/"
  refreshPath := "/auth/token/refresh/"
  profilePath := some "/admin-users/me/"
  requestSecs := defaultRequestSecs
  connectSecs := defaultConnectSecs

/-- The default configuration. -/
def default : Config := ofApiUrl defaultApiUrl

/-! ## Environment -/

def apiUrlVariable : String := "RADIUS_CONSOLE_API_URL"
def authEndpointsVariable : String := "RADIUS_CONSOLE_AUTH_ENDPOINTS"
def requestSecsVariable : String := "RADIUS_CONSOLE_REQUEST_TIMEOUT_SECS"
def connectSecsVariable : String := "RADIUS_CONSOLE_CONNECT_TIMEOUT_SECS"

/-- The text of a variable that is set to something other than blanks (`env_string`). -/
def settingText? (env : Environment) (name : String) : Option String :=
  (env.text? name).filter (!Text.isBlankText ·)

theorem settingText?_of_text {env : Environment} {name text : String}
    (h : env.text? name = some text) :
    settingText? env name = if Text.isBlankText text then none else some text := by
  unfold settingText?
  cases hblank : Text.isBlankText text with
  | false => simp [h, hblank, Option.filter]
  | true => simp [h, hblank, Option.filter]

/-- The number of seconds that a variable gives; what is no number of 64 bits does not count
(`env_parse`). -/
def settingSecs (env : Environment) (name : String) (default : Nat) : Nat :=
  ((env.text? name).bind fun raw =>
    Text.Decimal.unsigned? (UInt64.size - 1) (Text.trimChars raw.toList)).getD default

/-- The configuration that the environment gives (`from_env`). -/
def ofEnvironment (env : Environment) : Config :=
  let config := ofApiUrl ((settingText? env apiUrlVariable).getD defaultApiUrl)
  { config with
    authEndpoints :=
      ((settingText? env authEndpointsVariable).map endpointList).getD config.authEndpoints
    requestSecs := settingSecs env requestSecsVariable defaultRequestSecs
    connectSecs := settingSecs env connectSecsVariable defaultConnectSecs }

/-! ## URLs -/

/-- The URL of an API path (`endpoint`). A path that is a URL itself is taken as it is. -/
def endpoint (c : Config) (path : String) : String :=
  if Text.startsWith path "http://" || Text.startsWith path "https://" then path
  else if Text.startsWith path "/" then c.apiUrl ++ path
  else c.apiUrl ++ "/" ++ path

/-- A URL is for signing in if it holds one of the parts that are set for it
(`is_auth_endpoint`). -/
def isAuthEndpoint (c : Config) (url : String) : Bool :=
  c.authEndpoints.any fun part => part ≠ "" && Text.contains url part

def loginUrl (c : Config) : String := c.endpoint c.loginPath
def refreshUrl (c : Config) : String := c.endpoint c.refreshPath
def profileUrl? (c : Config) : Option String := c.profilePath.map c.endpoint

end Config

end AccessConsole
