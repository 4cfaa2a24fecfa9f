/-!
The shortest decimal text of a binary floating-point number: the fewest digits that read back as the
same number, the nearest to it among those (the larger one of two), written without an exponent.

A finite number is `m * 2 ^ q`. The numbers that round to it fill an interval around it that reaches
half way to each neighbour; the ends belong to it when `m` is even. All arithmetic is on naturals.
-/
namespace CacheTiers.Decimal

structure Binary where
  mantissa : Nat
  exponent : Int
deriving DecidableEq, Repr

structure Scaled where
  digits : Nat
  exponent : Int
deriving DecidableEq, Repr

structure Ratio where
  num : Nat
  den : Nat
deriving DecidableEq, Repr

namespace Ratio

def lt (a b : Ratio) : Bool := a.num * b.den < b.num * a.den

def le (a b : Ratio) : Bool := a.num * b.den ≤ b.num * a.den

def distance (a b : Ratio) : Ratio :=
  let x := a.num * b.den
  let y := b.num * a.den
  ⟨(x - y) + (y - x), a.den * b.den⟩

end Ratio

def power (n base : Nat) (exponent : Int) : Ratio :=
  match exponent with
  | .ofNat e => ⟨n * Nat.pow base e, 1⟩
  | .negSucc e => ⟨n, Nat.pow base (e + 1)⟩

def Binary.toRatio (b : Binary) : Ratio := power b.mantissa 2 b.exponent

def Scaled.toRatio (s : Scaled) : Ratio := power s.digits 10 s.exponent

-- The interval of numbers that round to a number; `closed` says whether its ends belong to it.
structure Interval where
  low : Ratio
  high : Ratio
  closed : Bool
deriving DecidableEq, Repr

def Interval.contains (interval : Interval) (r : Ratio) : Bool :=
  if interval.closed then interval.low.le r && r.le interval.high
  else interval.low.lt r && r.lt interval.high

-- The smallest mantissa of a number in full precision; below it the step to the next smaller number is as long as the
-- step to the next larger one.
def fullMantissa : Nat := Nat.pow 2 52

def minExponent : Int := -1074

def Binary.interval (b : Binary) : Interval :=
  let lowShort := b.mantissa = fullMantissa ∧ b.exponent ≠ minExponent
  { low := if lowShort then power (4 * b.mantissa - 1) 2 (b.exponent - 2)
           else power (2 * b.mantissa - 1) 2 (b.exponent - 1)
    high := power (2 * b.mantissa + 1) 2 (b.exponent - 1)
    closed := b.mantissa % 2 = 0 }

def Ratio.leading (r : Ratio) : Int :=
  let guess : Int := (Nat.toDigits 10 r.num).length - (Nat.toDigits 10 r.den).length
  if (power 1 10 guess).le r then guess else guess - 1

def neighbours (r : Ratio) (exponent : Int) : Scaled × Scaled :=
  let below := match exponent with
    | .ofNat e => r.num / (r.den * Nat.pow 10 e)
    | .negSucc e => r.num * Nat.pow 10 (e + 1) / r.den
  (⟨below, exponent⟩, ⟨below + 1, exponent⟩)

-- The neighbour on a grid that lies in the interval; of two the nearer, the upper one on a tie.
def onGrid? (r : Ratio) (interval : Interval) (exponent : Int) : Option Scaled :=
  let (below, above) := neighbours r exponent
  let lowFits := below.digits ≠ 0 && interval.contains below.toRatio
  let highFits := interval.contains above.toRatio
  if lowFits && highFits then
    if (r.distance below.toRatio).lt (r.distance above.toRatio) then some below else some above
  else if lowFits then some below
  else if highFits then some above
  else none

def firstOnGrid (r : Ratio) (interval : Interval) (exponent : Int) : Nat → Scaled
  | 0 => (neighbours r exponent).1
  | count + 1 => (onGrid? r interval exponent).getD (firstOnGrid r interval (exponent - 1) count)

def Binary.shortest (b : Binary) : Scaled :=
  let r := b.toRatio
  firstOnGrid r b.interval r.leading 17

def Scaled.positional (s : Scaled) : String :=
  let digits := Nat.toDigits 10 s.digits
  match s.exponent with
  | .ofNat e => String.ofList (digits ++ List.replicate (if s.digits = 0 then 0 else e) '0')
  | .negSucc e =>
    let places := e + 1
    let padded := List.replicate (places + 1 - digits.length) '0' ++ digits
    let whole := padded.take (padded.length - places)
    let fraction := (padded.drop (padded.length - places)).reverse.dropWhile (· = '0') |>.reverse
    if fraction.isEmpty then String.ofList whole
    else String.ofList (whole ++ '.' :: fraction)

inductive Parts where
  | zero (negative : Bool)
  | finite (negative : Bool) (magnitude : Binary)
  | infinite (negative : Bool)
  | undefined
deriving DecidableEq, Repr

def partsOfBits (bits : Nat) : Parts :=
  let negative : Bool := bits / Nat.pow 2 63 = 1
  let exponent : Nat := bits / Nat.pow 2 52 % Nat.pow 2 11
  let fraction : Nat := bits % Nat.pow 2 52
  if exponent = 2047 then if fraction = 0 then .infinite negative else .undefined
  else if exponent = 0 then
    if fraction = 0 then .zero negative else .finite negative ⟨fraction, minExponent⟩
  else .finite negative ⟨fullMantissa + fraction, (exponent : Int) - 1075⟩

def Parts.text : Parts → String
  | zero negative => if negative then "-0" else "0"
  | finite negative magnitude => (if negative then "-" else "") ++ magnitude.shortest.positional
  | infinite negative => if negative then "-inf" else "inf"
  | undefined => "NaN"

def ofFloat (x : Float) : String := (partsOfBits x.toBits.toNat).text

end CacheTiers.Decimal
