/-!
# Double precision numbers

A decimal is rounded to the nearest double precision number, and such a
number is written with the fewest digits that are read back as itself.  Both
directions use exact arithmetic on natural numbers.
-/

namespace Delegation.Toml

/-- A finite number is `significand * 2 ^ exponent` with its sign. -/
inductive Binary64 where
  | finite (negative : Bool) (significand : Nat) (exponent : Int)
  | infinite (negative : Bool)
  | undefined
  deriving DecidableEq, Repr

namespace Binary64

/-- The quotient rounded to the nearest integer, and to the even one of two. -/
def roundQuotient (numerator denominator : Nat) : Nat :=
  let quotient := numerator / denominator
  let remainder := numerator % denominator
  if 2 * remainder < denominator then quotient
  else if denominator < 2 * remainder then quotient + 1
  else quotient + quotient % 2

def scale (base : Nat) (exponent : Int) (fraction : Nat × Nat) : Nat × Nat :=
  match exponent with
  | .ofNat power => (fraction.1 * base.pow power, fraction.2)
  | .negSucc power => (fraction.1, fraction.2 * base.pow (power + 1))

def leastExponent : Int := -1074

def greatestExponent : Int := 971

def significandBits : Nat := 53

/-- The numbers of full precision have significands from this one to its double. -/
def leastFullSignificand : Nat := Nat.pow 2 (significandBits - 1)

def ofFraction (negative : Bool) (numerator denominator : Nat) : Binary64 :=
  let estimate : Int := (Nat.log2 numerator : Int) - Nat.log2 denominator - 52
  let (scaled, unit) := scale 2 (-estimate) (numerator, denominator)
  let exponent := max leastExponent
    (if scaled < leastFullSignificand * unit then estimate - 1 else estimate)
  let (scaled, unit) := scale 2 (-exponent) (numerator, denominator)
  let significand := roundQuotient scaled unit
  let (significand, exponent) :=
    if significand = 2 * leastFullSignificand then (leastFullSignificand, exponent + 1)
    else (significand, exponent)
  if greatestExponent < exponent then .infinite negative
  else .finite negative significand exponent

/--
The nearest number to `coefficient * 10 ^ exponent`.  Decimals far out of
range are settled by their number of digits.
-/
def ofDecimal (negative : Bool) (coefficient : Nat) (exponent : Int) : Binary64 :=
  let magnitude := (Nat.toDigits 10 coefficient).length + exponent
  if coefficient = 0 ∨ magnitude < -400 then .finite negative 0 leastExponent
  else if 400 < magnitude then .infinite negative
  else
    let (numerator, denominator) := scale 10 exponent (coefficient, 1)
    ofFraction negative numerator denominator

/-! ## Shortest decimals -/

/-- The fractions between which every decimal is read back as the number. -/
def interval (significand : Nat) (exponent : Int) : (Nat × Nat) × (Nat × Nat) :=
  let below :=
    if significand = leastFullSignificand ∧ leastExponent < exponent then 1 else 2
  (scale 2 (exponent - 2) (4 * significand - below, 1),
    scale 2 (exponent - 2) (4 * significand + 2, 1))

def fractionLe (first second : Nat × Nat) : Bool :=
  first.1 * second.2 ≤ second.1 * first.2

def fractionLt (first second : Nat × Nat) : Bool :=
  first.1 * second.2 < second.1 * first.2

/-- The multiple of a power of ten next to the number that is read back as it, if any. -/
def onGrid (significand : Nat) (exponent power : Int) : Option Nat :=
  let (numerator, denominator) := scale 10 (-power) (scale 2 exponent (significand, 1))
  let (lower, upper) := interval significand exponent
  let (lower, upper) := (scale 10 (-power) lower, scale 10 (-power) upper)
  let hits (multiple : Nat) : Bool :=
    if significand % 2 = 0 then
      fractionLe lower (multiple, 1) && fractionLe (multiple, 1) upper
    else fractionLt lower (multiple, 1) && fractionLt (multiple, 1) upper
  let floor := numerator / denominator
  let remainder := numerator % denominator
  match hits floor, hits (floor + 1) with
  | true, true => some (if 2 * remainder < denominator then floor else floor + 1)
  | true, false => some floor
  | false, true => some (floor + 1)
  | false, false => none

/-- The least power of ten above the number. -/
def decimalMagnitude (significand : Nat) (exponent : Int) : Int :=
  let (numerator, denominator) := scale 2 exponent (significand, 1)
  let digits (value : Nat) : Int := (Nat.toDigits 10 value).length
  if denominator ≤ numerator then digits (numerator / denominator)
  else
    let inverse := digits (denominator / numerator)
    if denominator ≤ numerator * Nat.pow 10 (inverse - 1).toNat then 2 - inverse
    else 1 - inverse

def shortest (significand : Nat) (exponent : Int) : Nat × Int :=
  let magnitude := decimalMagnitude significand exponent
  let powers := (List.range 20).map fun (digits : Nat) => magnitude - digits
  match powers.findSome? fun power =>
      (onGrid significand exponent power).map fun multiple => (multiple, power) with
  | some decimal => decimal
  | none => (0, 0)

def positional (coefficient : Nat) (power : Int) : List Char :=
  let digits := Nat.toDigits 10 coefficient
  match power with
  | .ofNat zeros => digits ++ List.replicate zeros '0' ++ ['.', '0']
  | .negSucc places =>
      let padded := List.replicate (places + 2 - digits.length) '0' ++ digits
      let whole := padded.length - (places + 1)
      padded.take whole ++ '.' :: padded.drop whole

def text : Binary64 → String
  | .undefined => "NaN"
  | .infinite negative => if negative then "-inf" else "inf"
  | .finite negative significand exponent =>
      let (coefficient, power) := if significand = 0 then (0, 0) else shortest significand exponent
      String.ofList ((if negative then ['-'] else []) ++ positional coefficient power)

end Binary64

end Delegation.Toml
