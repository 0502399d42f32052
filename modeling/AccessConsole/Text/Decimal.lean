/-!
# Decimal numerals

Whole numbers as ASCII digits, in both directions.

* `digits` — the digits of a natural number, most significant first, no leading zero.
* `value` — the number a run of digits stands for.
* `integer` — an integer with its sign.
* `unsigned?`, `signed?` — numerals as they are typed: a sign may precede the digits, at least
  one digit is needed, and the number has to lie in the given range.
-/

namespace AccessConsole.Text.Decimal

/-- The character of a digit below ten. -/
def digitChar (d : Nat) : Char := Char.ofNat ('0'.toNat + d)

/-- The number of a digit character. -/
def digitValue (c : Char) : Nat := c.toNat - '0'.toNat

/-- The digit that a character stands for. -/
def digitOf (c : Char) : Fin 10 := ⟨digitValue c % 10, Nat.mod_lt _ (by decide)⟩

/-- The digits of `n`, most significant first. -/
def digits (n : Nat) : List Char :=
  if n < 10 then [digitChar n] else digits (n / 10) ++ [digitChar (n % 10)]
termination_by n
decreasing_by omega

/-- The number that the digits `ds` spell. -/
def value (ds : List Char) : Nat :=
  ds.foldl (fun n c => 10 * n + digitValue c) 0

/-- A negative integer is its digits after a minus sign; no other sign is written. -/
def integer (n : Int) : List Char :=
  if n < 0 then '-' :: digits n.natAbs else digits n.natAbs

/-- The text of an integer. -/
def text (n : Int) : String := String.ofList (integer n)

/-- A run of digits is a number only if it is not empty and holds nothing else. -/
def natural? (cs : List Char) : Option Nat :=
  if cs.isEmpty || !cs.all Char.isDigit then none else some (value cs)

/-- A number from `0` to `top`; a plus sign may precede it, a minus sign may not. -/
def unsigned? (top : Nat) (cs : List Char) : Option Nat :=
  let body := match cs with
    | '+' :: rest => rest
    | _ => cs
  (natural? body).filter (· ≤ top)

/-- A number from `low` to `high`; either sign may precede it. -/
def signed? (low high : Int) (cs : List Char) : Option Int :=
  let number : Option Int := match cs with
    | '+' :: rest => (natural? rest).map Int.ofNat
    | '-' :: rest => (natural? rest).map fun n => -Int.ofNat n
    | _ => (natural? cs).map Int.ofNat
  number.filter fun n => low ≤ n && n ≤ high

end AccessConsole.Text.Decimal
