import CacheTiers.Decimal.Product
import CacheTiers.Json.Basic

namespace CacheTiers.Json

-- A part of a string's content as written: a character, a code unit given by a hexadecimal escape, or bytes that
-- encode no character.
inductive Piece where
  | char (c : Char)
  | unit (code : Nat)
  | stray
deriving DecidableEq, Repr

-- A number as written: an integer with its sign, or a number with a fraction or an exponent, which is read as a
-- product.
inductive Numeral where
  | integer (negative : Bool) (magnitude : Nat)
  | real (negative : Bool) (product : Decimal.Product)
deriving DecidableEq, Repr

inductive Token where
  | openBracket
  | closeBracket
  | openBrace
  | closeBrace
  | comma
  | colon
  | null
  | bool (value : Bool)
  | numeral (value : Numeral)
  | str (content : List Piece)
deriving DecidableEq, Repr

def digit? (c : Char) : Option Nat :=
  if '0' ≤ c ∧ c ≤ '9' then some (c.toNat - 48) else none

def hexDigit? (c : Char) : Option Nat :=
  if '0' ≤ c ∧ c ≤ '9' then some (c.toNat - 48)
  else if 'a' ≤ c ∧ c ≤ 'f' then some (c.toNat - 87)
  else if 'A' ≤ c ∧ c ≤ 'F' then some (c.toNat - 55)
  else none

def isDigit (c : Char) : Bool := (digit? c).isSome

def digitsValue (digits : List Char) : Nat :=
  digits.foldl (fun value c => value * 10 + (digit? c).getD 0) 0

def exponent? : List Char → Option Int
  | [] => some 0
  | mark :: rest =>
    if mark ≠ 'e' && mark ≠ 'E' then none
    else
      let (negative, digits) := match rest with
        | '-' :: digits => (true, digits)
        | '+' :: digits => (false, digits)
        | digits => (false, digits)
      if digits.isEmpty || !digits.all isDigit then none
      else if negative then some (-(digitsValue digits : Int))
      else some (digitsValue digits)

def digitValues (digits : List Char) : List Nat := digits.filterMap digit?

def realOf? (negative : Bool) (whole fraction exponent : List Char) : Option Numeral :=
  (exponent? exponent).map fun exponent =>
    .real negative (Decimal.Product.ofDigits (digitValues whole) (digitValues fraction) exponent)

def numeralOf (negative : Bool) (body : List Char) : Option Numeral :=
  let whole := body.takeWhile isDigit
  let rest := body.dropWhile isDigit
  if whole.isEmpty || (whole.length > 1 && whole.head? = some '0') then none
  else match rest with
    | [] => some (.integer negative (digitsValue whole))
    | '.' :: behind =>
      let fraction := behind.takeWhile isDigit
      if fraction.isEmpty then none else realOf? negative whole fraction (behind.dropWhile isDigit)
    | exponent => realOf? negative whole [] exponent

def numeral? : List Char → Option Numeral
  | '-' :: body => numeralOf true body
  | body => numeralOf false body

def word? : List Char → Option Token
  | ['n', 'u', 'l', 'l'] => some .null
  | ['t', 'r', 'u', 'e'] => some (.bool true)
  | ['f', 'a', 'l', 's', 'e'] => some (.bool false)
  | _ => none

def shortEscape? : Char → Option Char
  | '"' => some '"'
  | '\\' => some '\\'
  | '/' => some '/'
  | 'b' => some '\x08'
  | 'f' => some '\x0c'
  | 'n' => some '\n'
  | 'r' => some '\r'
  | 't' => some '\t'
  | _ => none

def punctuation? : Char → Option Token
  | '[' => some .openBracket
  | ']' => some .closeBracket
  | '\x7b' => some .openBrace
  | '\x7d' => some .closeBrace
  | ',' => some .comma
  | ':' => some .colon
  | _ => none

def isBlank (c : Char) : Bool := c = ' ' || c = '\n' || c = '\t' || c = '\r'

def isWordChar (c : Char) : Bool := 'a' ≤ c && c ≤ 'z'

def isNumeralChar (c : Char) : Bool :=
  isDigit c || c = '+' || c = '-' || c = '.' || c = 'e' || c = 'E'

inductive Lexing where
  | between
  | word (seen : List Char)
  | number (seen : List Char)
  | content (seen : List Piece)
  | escape (seen : List Piece)
  | hex (seen : List Piece) (missing code : Nat)
deriving DecidableEq, Repr

def start (c : Char) : Option (List Token × Lexing) :=
  if isBlank c then some ([], .between)
  else if c = '"' then some ([], .content [])
  else if isDigit c || c = '-' then some ([], .number [c])
  else if isWordChar c then some ([], .word [c])
  else (punctuation? c).map fun token => ([token], .between)

def advance (lexing : Lexing) (unit : Option Char) : Option (List Token × Lexing) :=
  match lexing, unit with
  | .between, some c => start c
  | .word seen, some c =>
    if isWordChar c then some ([], .word (c :: seen))
    else do
      let token ← word? seen.reverse
      let (tokens, next) ← start c
      return (token :: tokens, next)
  | .number seen, some c =>
    if isNumeralChar c then some ([], .number (c :: seen))
    else do
      let value ← numeral? seen.reverse
      let (tokens, next) ← start c
      return (.numeral value :: tokens, next)
  | .content seen, some c =>
    if c = '"' then some ([.str seen.reverse], .between)
    else if c = '\\' then some ([], .escape seen)
    else if c.toNat < 0x20 then none
    else some ([], .content (.char c :: seen))
  | .content seen, none => some ([], .content (.stray :: seen))
  | .escape seen, some c =>
    if c = 'u' then some ([], .hex seen 3 0)
    else (shortEscape? c).map fun meant => ([], .content (.char meant :: seen))
  | .hex seen missing code, some c => do
    let digit ← hexDigit? c
    let code := code * 16 + digit
    match missing with
    | 0 => return ([], .content (.unit code :: seen))
    | missing + 1 => return ([], .hex seen missing code)
  | .between, none | .word _, none | .number _, none | .escape _, none | .hex .., none => none

def finishLexing : Lexing → Option (List Token)
  | .between => some []
  | .word seen => (word? seen.reverse).map ([·])
  | .number seen => (numeral? seen.reverse).map fun value => [.numeral value]
  | .content _ | .escape _ | .hex .. => none

def tokensFrom (lexing : Lexing) : List (Option Char) → Option (List Token)
  | [] => finishLexing lexing
  | unit :: rest => do
    let (tokens, next) ← advance lexing unit
    let later ← tokensFrom next rest
    return tokens ++ later

def tokens? (units : List (Option Char)) : Option (List Token) := tokensFrom .between units

end CacheTiers.Json
