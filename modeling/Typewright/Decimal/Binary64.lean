/-!
# Double precision

A `Binary64` is a finite double: a sign, a mantissa below `2 ^ 53` and an exponent of two from `-1074` to `971`.
Arithmetic is exact on natural numbers and rounds once, to the nearest double, a tie going to the even mantissa.
`scaled` is the only use that reading numbers has for it: leading digits times a power of ten, the power itself
being rounded first.
-/

namespace Typewright

/-- `mantissa * 2 ^ exponent`, negated if `negative`. -/
structure Binary64 where
  negative : Bool
  mantissa : Nat
  exponent : Int
  deriving DecidableEq, Repr

namespace Binary64

/-- The integer nearest to `a / b`, a tie going to the even one. -/
def nearestEven (a b : Nat) : Nat :=
  let q := a / b
  let r := a % b
  if b < 2 * r || (2 * r == b && q % 2 == 1) then q + 1 else q

/-- `num / den` in units of `2 ^ e`, as a quotient of natural numbers. -/
def inUnits (num den : Nat) (e : Int) : Nat × Nat :=
  match e with
  | .ofNat n => (num, den * Nat.pow 2 n)
  | .negSucc n => (num * Nat.pow 2 (n + 1), den)

/-- A non-negative double without its sign. -/
structure Magnitude where
  mantissa : Nat
  exponent : Int

def zero : Magnitude := ⟨0, -1074⟩

/-- The double nearest to `num / den`, or nothing if that is beyond the largest one. -/
def nearest? (num den : Nat) : Option Magnitude :=
  if num = 0 then some zero
  else
    let guess : Int := max (-1074) ((num.log2 : Int) - den.log2 - 53)
    let (a, b) := inUnits num den guess
    let e := if a / b < Nat.pow 2 53 then guess else guess + 1
    let (a, b) := inUnits num den e
    let m := nearestEven a b
    let (m, e) := if m = Nat.pow 2 53 then (Nat.pow 2 52, e + 1) else (m, e)
    if 971 < e then none else some ⟨m, e⟩

/-- The value of a magnitude as a quotient. -/
def Magnitude.ratio (x : Magnitude) : Nat × Nat :=
  match x.exponent with
  | .ofNat n => (x.mantissa * Nat.pow 2 n, 1)
  | .negSucc n => (x.mantissa, Nat.pow 2 (n + 1))

/-- The double nearest to `10 ^ k`, for `k` up to 308. -/
def powerOfTen (k : Nat) : Magnitude := (nearest? (Nat.pow 10 k) 1).getD zero

def mul? (x y : Magnitude) : Option Magnitude :=
  nearest? (x.ratio.1 * y.ratio.1) (x.ratio.2 * y.ratio.2)

def div? (x y : Magnitude) : Option Magnitude :=
  nearest? (x.ratio.1 * y.ratio.2) (x.ratio.2 * y.ratio.1)

/-- `x` divided by `10 ^ k`, at most 308 powers at a time. -/
def scaleDown (x : Magnitude) (k : Nat) : Magnitude :=
  if k ≤ 308 then (div? x (powerOfTen k)).getD zero
  else if x.mantissa = 0 then zero
  else scaleDown ((div? x (powerOfTen 308)).getD zero) (k - 308)
termination_by k

/-- `x` times `10 ^ k`; nothing if that is beyond the largest double. -/
def scaleUp? (x : Magnitude) (k : Nat) : Option Magnitude :=
  if k ≤ 308 then mul? x (powerOfTen k) else if x.mantissa = 0 then some zero else none

/-- The digits `significand` scaled by the power `exponent` of ten. -/
def scaled (significand : Nat) (exponent : Int) : Option Magnitude :=
  match nearest? significand 1 with
  | none => none
  | some x =>
    match exponent with
    | .ofNat k => scaleUp? x k
    | .negSucc k => some (scaleDown x (k + 1))

def ofMagnitude (negative : Bool) (x : Magnitude) : Binary64 := ⟨negative, x.mantissa, x.exponent⟩

end Binary64

end Typewright
