import CacheTiers.Json.Reader
import CacheTiers.Table
import CacheTiers.Words

namespace CacheTiers.Json

def maxDepth : Nat := 127

-- The integer that a numeral denotes. A negative zero and a number with a fraction or an exponent are no integers,
-- even where their value is whole.
def Numeral.toInt? : Numeral → Option Int
  | .integer false n => some n
  | .integer true n => if n = 0 then none else some (-(n : Int))
  | .real .. => none

def productOf (n : Nat) : Decimal.Product :=
  Decimal.Product.ofDigits (digitValues (Nat.toDigits 10 n)) [] 0

-- Whether a number is beyond the doubles. An integer of 64 bits is not read as one; one of more than 310 digits is
-- beyond them all.
def Numeral.isHuge : Numeral → Bool
  | .integer _ n =>
    if n < wordCount 64 then false
    else if Nat.pow 10 310 ≤ n then true
    else (productOf n).overflows
  | .real _ product => product.overflows

def Numeral.toFloat : Numeral → Float
  | .integer negative n =>
    let magnitude := if n < wordCount 64 then Float.ofNat n else (productOf n).toFloat
    if negative then -magnitude else magnitude
  | .real negative product => if negative then -product.toFloat else product.toFloat

mutual

def Tree.isReadable (depth : Nat) : Tree → Bool
  | .null | .bool _ => true
  | .numeral numeral => !numeral.isHuge
  | .str content => (content? content).isSome
  | .arr items => match depth with
    | 0 => false
    | depth + 1 => areItemsReadable depth items
  | .obj members => match depth with
    | 0 => false
    | depth + 1 => areMembersReadable depth members

def areItemsReadable (depth : Nat) : List Tree → Bool
  | [] => true
  | item :: rest => item.isReadable depth && areItemsReadable depth rest

def areMembersReadable (depth : Nat) : List (List Piece × Tree) → Bool
  | [] => true
  | (name, tree) :: rest =>
    (content? name).isSome && tree.isReadable depth && areMembersReadable depth rest

end

mutual

def Tree.value? : Tree → Option Json
  | .null => some .null
  | .bool value => some (.bool value)
  | .numeral numeral => do
    let value ← numeral.toInt?
    if isSignedWord 64 value || isWord 64 value then return .int value else none
  | .str content => (content? content).map fun text => .str (String.ofList text)
  | .arr items => (itemValues? items).map .arr
  | .obj members => (memberValues? members).map .obj

def itemValues? : List Tree → Option (List Json)
  | [] => some []
  | tree :: rest => do
    let item ← tree.value?
    let items ← itemValues? rest
    return item :: items

def memberValues? : List (List Piece × Tree) → Option (List (String × Json))
  | [] => some []
  | (name, tree) :: rest => do
    let name := String.ofList (← content? name)
    let later ← memberValues? rest
    if (lookup name later).isSome then return later
    else return insertMember name (← tree.value?) later

end

def ofTree? (depth : Nat) (tree : Tree) : Option Json :=
  if tree.isReadable depth then tree.value? else none

end CacheTiers.Json
