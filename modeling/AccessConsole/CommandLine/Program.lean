import AccessConsole.CommandLine.Plan
import AccessConsole.Store.File

/-!
# The program

* `Settings.config`, `Settings.sessionPath` — where the API is and where the session is kept.
* `Ending` — how the program ends: `Ending.ofRefusal`, `Ending.ofReport`.
-/

namespace AccessConsole

namespace Settings

/-- The configuration: that of the environment, with the API root of the command line if there is
one (`main`, where it sets `api_url`). -/
def config (s : Settings) (env : Environment) : Config :=
  let config := Config.ofEnvironment env
  match s.apiUrl with
  | some url => { config with apiUrl := trimSlashes url }
  | none => config

/-- The variable of the directory that belongs to the user. -/
def homeVariable : String := "HOME"

/-- Where the session is kept in a directory of the user (`default_session_file`). -/
def sessionFileInHome : Path := Path.ofText ".radius-console/session.json"

/-- Where the session is kept (`main`, where it picks the session file). -/
def sessionPath (s : Settings) (env : Environment) : Path :=
  let home := match env.find? (·.1 = homeVariable) with
    | some (_, bytes) => Path.ofBytes bytes
    | none => Path.ofText "."
  s.sessionFile.getD (home.join sessionFileInHome)

end Settings

/-- How the program ends. -/
structure Ending where
  code : UInt8
  /-- What has been printed. The texts on usage and help are not told. -/
  output : Option String
  /-- The line that reports a failure. -/
  failure : Option String
  deriving DecidableEq, Repr

namespace Ending

/-- A line that does not follow the grammar is a failure of its own; help is none. -/
def ofRefusal : Refusal → Ending
  | .usage => ⟨2, none, none⟩
  | .help => ⟨0, none, none⟩

/-- Texts are printed with a line end after each. -/
def ofReport : Report → Ending
  | .ok texts => ⟨0, some (String.join (texts.map (· ++ "\n"))), none⟩
  | .error e => ⟨1, some "", some ("Error: " ++ e.diagnosis.text)⟩

/-- The program ends because its session cannot be read. -/
def ofStoreError (e : StoreError) : Ending := ofReport (.error (.gateway (.storage e)))

end Ending

end AccessConsole
