namespace CacheTiers.Decimal

-- Half a step above the largest double: numbers from here on round to infinity.
def doubleBound : Nat := Nat.pow 2 1024 - Nat.pow 2 970

-- Whether `digits * 10 ^ exponent` is rounded to infinity. A number of at most 308 places is not, one of at least 311
-- is, and one between is compared exactly.
def overflows (digits : Nat) (exponent : Int) : Bool :=
  let places : Int := (Nat.toDigits 10 digits).length + exponent
  if digits = 0 || places ≤ 308 then false
  else if 311 ≤ places then true
  else if 0 ≤ exponent then doubleBound ≤ digits * Nat.pow 10 exponent.toNat
  else doubleBound * Nat.pow 10 (-exponent).toNat ≤ digits

end CacheTiers.Decimal
