import CacheTiers.Decimal.Range
import CacheTiers.Words

namespace CacheTiers.Decimal

structure Product where
  lead : Nat
  power : Int
deriving DecidableEq, Repr

-- Reads digits behind a number as long as it keeps to 64 bits: the number, and how many digits follow.
def leading (read : Nat) : List Nat → Nat × Nat
  | [] => (read, 0)
  | digit :: rest =>
    if read * 10 + digit < wordCount 64 then leading (read * 10 + digit) rest
    else (read, rest.length + 1)

-- The natural number of at most 53 binary digits, with zeros behind them, that is nearest to `n`; of two the one
-- whose last of those digits is zero.
def roundNat (n : Nat) : Nat :=
  let step := Nat.pow 2 (Nat.log2 n - 52)
  let count := n / step
  let rest := n % step
  if step < 2 * rest || (2 * rest = step && count % 2 = 1) then (count + 1) * step else count * step

def maxPower : Nat := 308

namespace Product

def ofDigits (whole fraction : List Nat) (exponent : Int) : Product :=
  let (lead, dropped) := leading 0 whole
  let (lead, unread) := leading lead fraction
  ⟨lead, exponent + dropped - (fraction.length - unread : Nat)⟩

def overflows (product : Product) : Bool :=
  if product.lead = 0 || product.power < 0 then false
  else if maxPower < product.power then true
  else doubleBound ≤ roundNat product.lead * roundNat (Nat.pow 10 product.power.toNat)

def ten (power : Nat) : Float := Float.ofScientific 1 false power

-- The double that the product is rounded to. Division takes two steps where the power is no double; two such steps
-- leave nothing of the leading digits.
def toFloat (product : Product) : Float :=
  let lead := Float.ofNat product.lead
  match product.power with
  | .ofNat power => lead * ten power
  | .negSucc power =>
    let power := power + 1
    if power ≤ maxPower then lead / ten power
    else if power ≤ 2 * maxPower then lead / ten maxPower / ten (power - maxPower)
    else 0

end Product

end CacheTiers.Decimal
