import AccessConsole.CommandLine.Error
import AccessConsole.Text.Blank

/-!
# Passwords that are typed in

* `Password.line` — the first line of what is typed in.
* `Password.ofInput` — the password that it holds.
-/

namespace AccessConsole.Password

/-- The byte that ends a line. -/
def lineEnd : UInt8 := 10

/-- The first line, with the byte that ends it if there is one. -/
def line (input : Bytes) : Bytes :=
  input.takeWhile (· ≠ lineEnd) ++ (input.dropWhile (· ≠ lineEnd)).take 1

/-- The characters of a line without those that end it. -/
def trimLine (cs : List Char) : List Char := Text.dropTrailing (fun c => c = '\r' || c = '\n') cs

/-- The password on the first line (`read_password_line`). What follows it is not looked at. -/
def ofInput (input : Bytes) : Except CommandError String :=
  match Bytes.text? (line input) with
  | none => .error .unreadablePassword
  | some s =>
    let password := trimLine s.toList
    if password.isEmpty then .error .missingPassword else .ok (String.ofList password)

end AccessConsole.Password
