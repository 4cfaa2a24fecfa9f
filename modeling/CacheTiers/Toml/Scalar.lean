import CacheTiers.Decimal.Range
import CacheTiers.Json.Token
import CacheTiers.Toml.Basic
import CacheTiers.Words

namespace CacheTiers.Toml

open Json (digit? isDigit digitsValue hexDigit?)

def ungroup? (isMember : Char → Bool) : List Char → Option (List Char)
  | [] => none
  | [c] => if isMember c then some [c] else none
  | c :: '_' :: rest => if isMember c then (ungroup? isMember rest).map (c :: ·) else none
  | c :: rest => if isMember c then (ungroup? isMember rest).map (c :: ·) else none

def whole? (chars : List Char) : Option (List Char) :=
  match chars with
  | ['0'] => some ['0']
  | '0' :: _ => none
  | chars => ungroup? isDigit chars

def bounded? (negative : Bool) (magnitude : Nat) : Option Value :=
  let value : Int := if negative then -(magnitude : Int) else magnitude
  if isSignedWord 64 value then some (.int value) else none

def inBase? (base : Nat) (chars : List Char) : Option Value := do
  let digits ← ungroup? (fun c => (hexDigit? c).any (· < base)) chars
  bounded? false (digits.foldl (fun value c => value * base + (hexDigit? c).getD 0) 0)

def signed : List Char → Bool × List Char
  | '-' :: rest => (true, rest)
  | '+' :: rest => (false, rest)
  | chars => (false, chars)

def integer? (chars : List Char) : Option Value :=
  match chars with
  | '0' :: 'x' :: rest => inBase? 16 rest
  | '0' :: 'o' :: rest => inBase? 8 rest
  | '0' :: 'b' :: rest => inBase? 2 rest
  | chars =>
    let (negative, rest) := signed chars
    (whole? rest).bind fun digits => bounded? negative (digitsValue digits)

def exponent? (chars : List Char) : Option Int :=
  let (negative, rest) := signed chars
  (ungroup? isDigit rest).map fun digits =>
    if negative then -(digitsValue digits : Int) else digitsValue digits

def fraction? (chars : List Char) : Option (List Char × Int) :=
  let isMark := fun c => c = 'e' || c = 'E'
  let exponent? := fun rest : List Char => match rest with
    | [] => some 0
    | _ :: power => exponent? power
  match chars with
  | '.' :: rest => do
    let digits ← ungroup? isDigit (rest.takeWhile fun c => !isMark c)
    let exponent ← exponent? (rest.dropWhile fun c => !isMark c)
    return (digits, exponent)
  | [] => none
  | c :: _ => if isMark c then (exponent? chars).map fun exponent => ([], exponent) else none

def float? (chars : List Char) : Option Value :=
  let (negative, rest) := signed chars
  if rest = ['i', 'n', 'f'] || rest = ['n', 'a', 'n'] then some .float
  else
    let belongs := fun c => isDigit c || c = '_'
    do
      let whole ← whole? (rest.takeWhile belongs)
      let (digits, exponent) ← fraction? (rest.dropWhile belongs)
      if !negative && Decimal.overflows (digitsValue (whole ++ digits)) (exponent - digits.length) then none
      else return .float

def field? (n low high : Nat) (chars : List Char) : Option (Nat × List Char) :=
  let digits := chars.take n
  let value := digitsValue digits
  if digits.length = n && digits.all isDigit && low ≤ value && value ≤ high then
    some (value, chars.drop n)
  else none

def mark? (c : Char) : List Char → Option (List Char)
  | d :: rest => if d = c then some rest else none
  | [] => none

def isLeap (year : Nat) : Bool := year % 4 = 0 && (year % 100 ≠ 0 || year % 400 = 0)

def daysOf (year month : Nat) : Nat :=
  if month = 2 then if isLeap year then 29 else 28
  else if month = 4 || month = 6 || month = 9 || month = 11 then 30
  else 31

def date? (chars : List Char) : Option (List Char) := do
  let (year, rest) ← field? 4 0 9999 chars
  let (month, rest) ← field? 2 1 12 (← mark? '-' rest)
  let (_, rest) ← field? 2 1 (daysOf year month) (← mark? '-' rest)
  return rest

def clock? (chars : List Char) : Option (List Char) := do
  let (_, rest) ← field? 2 0 23 chars
  let (_, rest) ← field? 2 0 59 (← mark? ':' rest)
  return rest

-- Reads a time of day with its seconds and gives what follows it. A minute may have a leap second.
def time? (chars : List Char) : Option (List Char) := do
  let rest ← clock? chars
  let (_, rest) ← field? 2 0 60 (← mark? ':' rest)
  match rest with
  | '.' :: digits =>
    if (digits.takeWhile isDigit).isEmpty then none else return digits.dropWhile isDigit
  | rest => return rest

def isZone : List Char → Bool
  | [] => true
  | ['Z'] | ['z'] => true
  | sign :: rest => (sign = '+' || sign = '-') && clock? rest = some []

def isDate (chars : List Char) : Bool := date? chars = some []

def isZonedTime (chars : List Char) : Bool := (time? chars).any isZone

def isMoment (chars : List Char) : Bool :=
  match date? chars with
  | some (mark :: time) => (mark = 'T' || mark = 't') && isZonedTime time
  | some [] => true
  | none => time? chars = some []

def word? (chars : List Char) : Option Value :=
  if chars = ['t', 'r', 'u', 'e'] then some (.bool true)
  else if chars = ['f', 'a', 'l', 's', 'e'] then some (.bool false)
  else if isMoment chars then some .moment
  else match integer? chars with
    | some value => some value
    | none => float? chars

end CacheTiers.Toml
