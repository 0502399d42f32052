/-!
# Words of a command line

A command line is a row of words. Options are given by name, `--name value` or `--name=value`,
other arguments by their place, and a command may begin a further level of the line.

* `Word` — what a word looks like.
* `Slot` — an argument, as far as scanning needs to know it.
* `Scan` — the arguments of one level read so far.
* `Scan.level` — the words of one level, up to a command if there is one.

A value is looked at when the next argument begins, or at the end of the line. Which of two faults
is told does not show, but a request for help shows only where no fault comes before it.
-/

namespace AccessConsole

/-- Why a command line is not carried out. -/
inductive Refusal
  /-- It does not follow the grammar. -/
  | usage
  /-- It asks for help. -/
  | help
  deriving DecidableEq, Repr

/-! ## Words -/

/-- What a word looks like, where options may stand. -/
inductive Word
  /-- Two dashes alone: no options follow. -/
  | divider
  /-- Two dashes and a name, and perhaps a value after an equals sign. -/
  | long (name : String) (value : Option String)
  /-- A dash and something else. -/
  | short (letter : Char)
  | plain (text : String)
  deriving DecidableEq, Repr

namespace Word

/-- The name before an equals sign, and the value after the first one. -/
def split (cs : List Char) : String × Option String :=
  let name := String.ofList (cs.takeWhile (· ≠ '='))
  match cs.dropWhile (· ≠ '=') with
  | [] => (name, none)
  | _ :: value => (name, some (String.ofList value))

/-- What a text looks like. A dash alone is a plain word. -/
def ofText (s : String) : Word :=
  match s.toList with
  | ['-', '-'] => .divider
  | '-' :: '-' :: cs => .long (split cs).1 (split cs).2
  | '-' :: c :: _ => .short c
  | _ => .plain s

end Word

/-! ## Arguments -/

/-- An argument: its name, whether it is given by name, and which values it takes. -/
structure Slot where
  name : String
  named : Bool
  accepts : String → Bool

/-- The name of the option and of the command that ask for help. -/
def helpName : String := "help"

/-- The letter of the option that asks for help. -/
def helpLetter : Char := 'h'

/-! ## Scanning -/

/-- The arguments of one level read so far. -/
structure Scan where
  options : List Slot
  /-- The arguments that go by place and have none yet. -/
  places : List Slot
  /-- The arguments that have their values. -/
  given : List (String × String) := []
  /-- The argument just begun, and its value if that has been read. -/
  pending : Option (Slot × Option String) := none
  /-- No options follow. -/
  plainOnly : Bool := false

namespace Scan

/-- The scan before the first word. -/
def start (slots : List Slot) : Scan where
  options := slots.filter (·.named)
  places := slots.filter (!·.named)

/-- An option has been named and its value comes next. -/
def awaits (s : Scan) : Bool := s.pending.any (·.2.isNone)

/-- An argument has a value. It must not have one already, and has to take this one. -/
def give (s : Scan) (slot : Slot) (value : String) : Except Refusal Scan :=
  if s.given.any (·.1 = slot.name) || !slot.accepts value then .error .usage
  else .ok { s with given := s.given ++ [(slot.name, value)] }

/-- The argument just begun is done with. -/
def settle (s : Scan) : Except Refusal Scan :=
  match s.pending with
  | none => .ok s
  | some (_, none) => .error .usage
  | some (slot, some value) => { s with pending := none }.give slot value

/-- A value for the next argument that goes by place. -/
def place (s : Scan) (value : String) : Except Refusal Scan := do
  let s ← s.settle
  match s.places with
  | [] => .error .usage
  | slot :: places => .ok { s with places, pending := some (slot, some value) }

/-- Help is asked for. -/
def help (s : Scan) : Except Refusal Scan := do
  let _ ← s.settle
  .error .help

/-- An option is named, perhaps with its value. -/
def option (s : Scan) (name : String) (value : Option String) : Except Refusal Scan :=
  if name = helpName then if value.isNone then s.help else .error .usage
  else
    match s.options.find? (·.name = name) with
    | none => .error .usage
    | some slot => do
      let s ← s.settle
      match value with
      | some value => s.give slot value
      | none => .ok { s with pending := some (slot, none) }

/-- The scan after one more word that is no command. -/
def step (s : Scan) (text : String) : Except Refusal Scan :=
  if s.plainOnly then s.place text
  else
    match Word.ofText text with
    | .divider => .ok { s with plainOnly := true }
    | .long name value => s.option name value
    | .short letter => if letter = helpLetter then s.help else .error .usage
    | .plain text =>
      match s.pending with
      | some (slot, none) => .ok { s with pending := some (slot, some text) }
      | _ => s.place text

/-- The words of one level: the scan at its end, and the command that ends it with the words after
it. A word names a command where no option waits for a value. -/
def level (commands : List String) (s : Scan) :
    List String → Except Refusal (Scan × Option (String × List String))
  | [] => .ok (s, none)
  | text :: rest =>
    if !s.plainOnly && !s.awaits && commands.contains text then .ok (s, some (text, rest))
    else do
      let s ← s.step text
      level commands s rest

/-- The values of a level after its last word. -/
def values (s : Scan) : Except Refusal (List (String × String)) := do
  let s ← s.settle
  return s.given

end Scan

end AccessConsole
