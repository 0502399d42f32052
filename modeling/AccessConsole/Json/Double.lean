import AccessConsole.Json.Basic
import AccessConsole.Text.Decimal

/-!
# Numerals as binary64 numbers

Numerals outside the machine integers are held as binary64 numbers.

* `Double.ofNumeral?` — the number that a numeral is read as: its leading digits as a 64-bit
  integer, scaled by one multiplication or division by a power of ten.
* `Double.shortest` — the fewest digits that read back as a number, nearest to it of those.
* `Double.numeral` — these digits in positional notation from 1e-5 up to 1e16, and with an
  exponent outside.
-/

namespace AccessConsole.Json.Double

/-! ## Reading -/

/-- The power of ten with an exponent up to 308. -/
def pow10 (exponent : Nat) : Float := Float.ofScientific 1 false exponent

/-- The largest 64-bit natural number. -/
def maxWord : Nat := UInt64.size - 1

/-- One more digit at the end of a significand; none if it outgrows 64 bits. -/
def append? (significand : Nat) (digit : Nat) : Option Nat :=
  if significand * 10 + digit ≤ maxWord then some (significand * 10 + digit) else none

/-- The significand of the digits before the point, and the number of digits left out: once one
does not fit into 64 bits, it and all after it are. -/
def takeWhole (significand : Nat) : List Nat → Nat × Nat
  | [] => (significand, 0)
  | d :: ds =>
    match append? significand d with
    | some s => takeWhole s ds
    | none => (significand, ds.length + 1)

/-- The significand continued with the digits after the point, and the number of those taken. -/
def takeFraction (significand : Nat) : List Nat → Nat × Nat
  | [] => (significand, 0)
  | d :: ds =>
    match append? significand d with
    | some s => let r := takeFraction s ds; (r.1, r.2 + 1)
    | none => (significand, 0)

/-- `f` times ten to the power `exponent`; none above the largest finite number. Large negative
exponents are taken off in steps of 308. -/
def scale? (f : Float) (exponent : Int) : Option Float :=
  if 0 ≤ exponent then
    if exponent ≤ 308 then
      let product := f * pow10 exponent.toNat
      if product.isInf then none else some product
    else if f == 0.0 then some f
    else none
  else if -308 ≤ exponent then some (f / pow10 exponent.natAbs)
  else if f == 0.0 then some f
  else scale? (f / pow10 308) (exponent + 308)
termination_by (-exponent).toNat
decreasing_by omega

/-- The number that a numeral is read as; none above the largest finite number. -/
def ofNumeral? : Number → Option Float
  | .integer n => signed (n < 0) n.natAbs [] 0
  | .decimal negative whole fraction exponent => signed negative whole fraction exponent
where
  /-- The number of a sign, the digits before and after the point, and an exponent. -/
  signed (negative : Bool) (whole : Nat) (fraction : List (Fin 10)) (exponent : Int) :
      Option Float :=
    let digits := (Text.Decimal.digits whole).map Text.Decimal.digitValue
    let (head, dropped) := takeWhole 0 digits
    let (significand, taken) := takeFraction head (fraction.map Fin.val)
    let magnitude := scale? significand.toUInt64.toFloat (exponent + dropped - taken)
    magnitude.map fun f => if negative then -f else f

/-! ## Shortest digits -/

/-- A positive finite number as `significand * 2 ^ exponent`. Where the numbers below it lie twice
as dense as those above, `edge` holds. -/
structure Binary where
  significand : Nat
  exponent : Int
  edge : Bool
  deriving Repr

/-- The bit above those of the fraction. -/
def unitBit : Nat := 0x10000000000000

/-- The number of exponent fields. -/
def fieldCount : Nat := 0x800

/-- The bit of the sign. -/
def signBit : UInt64 := 0x8000000000000000

/-- The parts of the magnitude of a finite number. -/
def binary (f : Float) : Binary :=
  let bits := f.toBits.toNat
  let field : Nat := bits / unitBit % fieldCount
  let fraction : Nat := bits % unitBit
  if field = 0 then ⟨fraction, -1074, false⟩
  else ⟨unitBit + fraction, (field : Int) - 1075, fraction = 0 && 1 < field⟩

/-- `digits * 10 ^ exponent`. -/
structure Decimal where
  digits : Nat
  exponent : Int
  deriving Repr

/-- The quotient of two natural numbers, rounded down, and that plus one. Whichever of the two is
nearer comes first; of a tie, the even one. -/
def neighbours (num den : Nat) : List Nat :=
  let low := num / den
  let rest := num % den
  if rest = 0 then [low]
  else if 2 * rest < den || (2 * rest = den && low % 2 = 0) then [low, low + 1]
  else [low + 1, low]

/-- The powers of two and ten that bring `n * 2 ^ twos / 10 ^ tens` over a common denominator:
the factors of numerator and denominator. -/
def factors (twos tens : Int) : Nat × Nat :=
  (Nat.pow 2 twos.toNat * Nat.pow 10 (-tens).toNat,
    Nat.pow 2 (-twos).toNat * Nat.pow 10 tens.toNat)

/-- A multiple of `10 ^ tens` that reads back as the number, the nearest one; none if there is no
such multiple. All lengths are counted in quarters of the unit in the last place. -/
def onGrid? (b : Binary) (tens : Int) : Option Nat :=
  let (num, den) := factors (b.exponent - 2) tens
  let centre := 4 * b.significand
  let low := if b.edge then centre - 1 else centre - 2
  let high := centre + 2
  let inside (n : Nat) : Bool :=
    if b.significand % 2 = 0 then low * num ≤ n * den && n * den ≤ high * num
    else low * num < n * den && n * den < high * num
  (neighbours (centre * num) den).find? inside

/-- The first grid, from coarse to fine, that holds a multiple which reads back. -/
def search (b : Binary) (tens : Int) : Nat → Decimal
  | 0 => ⟨0, 0⟩
  | steps + 1 =>
    match onGrid? b tens with
    | some n => ⟨n, tens⟩
    | none => search b (tens - 1) steps

/-- The fewest digits that read back as a positive number. The search begins above the number and
needs at most seventeen digits, so it covers the exponents of all of them. -/
def shortest (f : Float) : Decimal :=
  let b := binary f
  let (num, den) := factors b.exponent 0
  let wholeDigits := (Text.Decimal.digits (b.significand * num)).length
  let scaleDigits := (Text.Decimal.digits den).length
  search b ((wholeDigits : Int) - scaleDigits + 1) 20

/-! ## Layout -/

/-- Where positional notation ends, for the decimal exponent of the first digit: it is used from
`low` on and below `high`. -/
structure Layout where
  low : Int
  high : Int

/-- Numbers from 1e-5 up to 1e16 are written positionally. -/
def layout : Layout := ⟨-5, 16⟩

/-- The numeral of a number: integral ones show a zero after the point. -/
def numeral (f : Float) : Number :=
  let negative := signBit ≤ f.toBits
  let zero := Text.Decimal.digitOf '0'
  if f == 0.0 then .decimal negative 0 [zero] 0
  else
    let d := shortest f
    let ds := Text.Decimal.digits d.digits
    let first := d.exponent + ds.length - 1
    if layout.low ≤ first && first < layout.high then
      if first < 0 then
        let fraction := ds.map Text.Decimal.digitOf
        .decimal negative 0 (List.replicate (first.natAbs - 1) zero ++ fraction) 0
      else
        let place := first.toNat + 1
        let padded := ds ++ List.replicate (place - ds.length) '0'
        let fraction := (padded.drop place).map Text.Decimal.digitOf
        .decimal negative (Text.Decimal.value (padded.take place))
          (if fraction.isEmpty then [zero] else fraction) 0
    else
      .decimal negative (Text.Decimal.value (ds.take 1)) ((ds.drop 1).map Text.Decimal.digitOf)
        first

end AccessConsole.Json.Double
