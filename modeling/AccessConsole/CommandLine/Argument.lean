import AccessConsole.CommandLine.Scan
import AccessConsole.Gateway.Config

/-!
# Arguments of commands

* `Argument` — an argument with the type of its values.
* `Arguments` — the arguments of a command, and the type of the tuple of their values.
* `Form` — a command with the words that it takes, and `Form.read` for reading them.
* `Branch`, `Branch.read` — a command that is a form itself, or has forms as further commands.
* `Grammar.read` — a line with general arguments and a command.

The variables of the environment stand in for some options where these are not given.
-/

namespace AccessConsole

/-- An argument with values of type `α`. -/
structure Argument (α : Type) where
  name : String
  /-- It is given by name, and not by its place. -/
  named : Bool
  /-- The value that a text stands for. -/
  read? : String → Option α
  /-- The value where it is not given; none if it must be. -/
  missing? : Environment → Option α

namespace Argument

variable {α : Type}

/-- An argument that goes by its place. -/
def positional (name : String) (read? : String → Option α) : Argument α :=
  ⟨name, false, read?, fun _ => none⟩

/-- An option that has to be given. -/
def required (name : String) (read? : String → Option α) : Argument α :=
  ⟨name, true, read?, fun _ => none⟩

/-- An option with a value for where it is not given. -/
def defaulted (name : String) (read? : String → Option α) (value : α) : Argument α :=
  ⟨name, true, read?, fun _ => some value⟩

/-- An option that need not be given. -/
def optional (name : String) (read? : String → Option α) : Argument (Option α) :=
  ⟨name, true, fun s => (read? s).map some, fun _ => some none⟩

/-- An option for which a variable stands in. The value of the variable has to be one of the
option. -/
def orVariable (name : String) (read? : String → Option α) (variableName : String)
    (ofBytes? : Bytes → Option α) : Argument (Option α) where
  name
  named := true
  read? s := (read? s).map some
  missing? env :=
    match env.find? (·.1 = variableName) with
    | none => some none
    | some (_, bytes) => (ofBytes? bytes).map some

/-- The argument as scanning needs to know it. -/
def slot (a : Argument α) : Slot := ⟨a.name, a.named, fun s => (a.read? s).isSome⟩

/-- The value of an argument among those given. -/
def value? (a : Argument α) (env : Environment) (given : List (String × String)) : Option α :=
  match given.find? (·.1 = a.name) with
  | some (_, text) => a.read? text
  | none => a.missing? env

end Argument

/-- The arguments of a command in order, and the type of the tuple of their values. -/
inductive Arguments : Type → Type 1
  | nil : Arguments Unit
  | cons {α β : Type} (argument : Argument α) (rest : Arguments β) : Arguments (α × β)

namespace Arguments

/-- The arguments as scanning needs to know them. -/
def slots {τ : Type} : Arguments τ → List Slot
  | .nil => []
  | .cons argument rest => argument.slot :: rest.slots

/-- The values of the arguments, given the texts of some. -/
def values? {τ : Type} : Arguments τ → Environment → List (String × String) → Option τ
  | .nil, _, _ => some ()
  | .cons argument rest, env, given => do
    let a ← argument.value? env given
    let b ← rest.values? env given
    return (a, b)

/-- The values of the arguments at the end of a scan. -/
def finish {τ : Type} (arguments : Arguments τ) (env : Environment) (s : Scan) :
    Except Refusal τ := do
  match arguments.values? env (← s.values) with
  | some values => .ok values
  | none => .error .usage

end Arguments

/-! ## Commands -/

/-- A command with arguments. -/
structure Form (β : Type) where
  {τ : Type}
  arguments : Arguments τ
  build : τ → β

/-- The command that the words of a form make. -/
def Form.read {β : Type} (form : Form β) (env : Environment) (words : List String) :
    Except Refusal β := do
  let (s, _) ← Scan.level [] (.start form.arguments.slots) words
  return form.build (← form.arguments.finish env s)

/-- A command: a form, or further commands that are forms. -/
inductive Branch (β : Type) : Type 1
  | single (form : Form β)
  | family (members : List (String × Form β))

namespace Branch

variable {β : Type}

/-- The names of the further commands. -/
def names : Branch β → List String
  | .single _ => []
  | .family members => members.map (·.1)

/-- The words after `help` name a further command, or nothing. A branch of further commands has
`help` among them. -/
def explains : Branch β → List String → Bool
  | _, [] => true
  | .family members, [name] => name = helpName || members.any (·.1 = name)
  | _, _ => false

/-- The command that the words of a branch make. -/
def read (branch : Branch β) (env : Environment) (words : List String) : Except Refusal β :=
  match branch with
  | .single form => form.read env words
  | .family members => do
    match ← Scan.level (helpName :: branch.names) (.start []) words with
    | (s, none) =>
      let _ ← s.values
      .error .usage
    | (s, some (name, rest)) =>
      match members.find? (·.1 = name) with
      | some (_, form) =>
        let command ← form.read env rest
        let _ ← s.values
        return command
      | none => if branch.explains rest then .error .help else .error .usage

end Branch

/-! ## Lines -/

/-- The general arguments of a line, and its commands. -/
structure Grammar (γ β : Type) where
  {τ : Type}
  arguments : Arguments τ
  general : τ → γ
  commands : List (String × Branch β)

namespace Grammar

variable {γ β : Type}

/-- The words after `help` name a command with the commands in it, or nothing. -/
def explains (g : Grammar γ β) : List String → Bool
  | [] => true
  | name :: rest =>
    match g.commands.find? (·.1 = name) with
    | some (_, branch) => branch.explains rest
    | none => name = helpName && rest.isEmpty

/-- What the words of a line say. The command is read before the general arguments are looked
at. -/
def read (g : Grammar γ β) (env : Environment) (words : List String) : Except Refusal (γ × β) := do
  match ← Scan.level (helpName :: g.commands.map (·.1)) (.start g.arguments.slots) words with
  | (s, none) =>
    let _ ← s.values
    .error .usage
  | (s, some (name, rest)) =>
    match g.commands.find? (·.1 = name) with
    | some (_, branch) =>
      let command ← branch.read env rest
      return (g.general (← g.arguments.finish env s), command)
    | none => if g.explains rest then .error .help else .error .usage

end Grammar

end AccessConsole
