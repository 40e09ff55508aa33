import Typewright.Decimal.Binary64

/-!
# Shortest decimal texts

The text of a double has the fewest digits that read back as it: `shortest` takes the coarsest decimal grid that
has a point in the interval of numbers that round to the double, and the point nearest to it. Positional notation
is used while the point stands at most five places before and sixteen places after the first digit; a whole number
ends in `.0`, and the exponent of the other notation has a sign.
-/

namespace Typewright.Binary64

/-- The ends of the interval that rounds to `x`, with the value of `x` between them, as numerators over one
    denominator. The interval is closed if the mantissa is even. -/
structure Interval where
  low : Nat
  value : Nat
  high : Nat
  den : Nat
  closed : Bool

/-- The neighbour below is closer where the mantissa is the least of its exponent. -/
def interval (x : Magnitude) : Interval :=
  let below := if x.mantissa = Nat.pow 2 52 && -1074 < x.exponent then 1 else 2
  let (num, den) : Nat × Nat :=
    match x.exponent with
    | .ofNat n => (Nat.pow 2 n, 4)
    | .negSucc n => (1, 4 * Nat.pow 2 (n + 1))
  ⟨(4 * x.mantissa - below) * num, 4 * x.mantissa * num, (4 * x.mantissa + 2) * num, den, x.mantissa % 2 == 0⟩

/-- The multiple of `10 ^ k` in the interval that is nearest to its value. -/
def onGrid? (i : Interval) (k : Int) : Option Nat :=
  let (scale, den) : Nat × Nat :=
    match k with
    | .ofNat n => (1, i.den * Nat.pow 10 n)
    | .negSucc n => (Nat.pow 10 (n + 1), i.den)
  let inside (p : Nat) : Bool :=
    if i.closed then i.low * scale ≤ p * den && p * den ≤ i.high * scale
    else i.low * scale < p * den && p * den < i.high * scale
  let p := nearestEven (i.value * scale) den
  let floor := i.value * scale / den
  if inside p then some p else if inside floor then some floor else if inside (floor + 1) then some (floor + 1)
  else none

/-- Digits and the power of ten of the last one: the fewest digits that read back as `x`. -/
def shortest (x : Magnitude) : Nat × Int :=
  let i := interval x
  ((List.range 660).findSome? fun (n : Nat) =>
    let k : Int := 320 - (n : Int)
    (onGrid? i k).map fun p => (p, k)).getD (0, 0)

def zeros (n : Nat) : String := String.ofList (List.replicate n '0')

/-- Digits and a power of ten as text. -/
def decimalText (digits : Nat) (power : Int) : String :=
  let ds := Nat.toDigits 10 digits
  let length : Int := ds.length
  let point := length + power
  if 0 ≤ power && point ≤ 16 then String.ofList ds ++ zeros power.toNat ++ ".0"
  else if 0 < point && point ≤ 16 then
    String.ofList (ds.take point.toNat) ++ "." ++ String.ofList (ds.drop point.toNat)
  else if -5 < point && point ≤ 0 then "0." ++ zeros (-point).toNat ++ String.ofList ds
  else
    let sign := if point - 1 < 0 then "-" else "+"
    let fraction := if ds.length = 1 then "" else "." ++ String.ofList (ds.drop 1)
    String.ofList (ds.take 1) ++ fraction ++ "e" ++ sign ++ toString (point - 1).natAbs

def toText (x : Binary64) : String :=
  let sign := if x.negative then "-" else ""
  if x.mantissa = 0 then sign ++ "0.0"
  else
    let (digits, power) := shortest ⟨x.mantissa, x.exponent⟩
    sign ++ decimalText digits power

end Typewright.Binary64
