import CacheTiers.Json.Token
import CacheTiers.Text.Utf8

namespace CacheTiers.Json

inductive Tree where
  | null
  | bool (value : Bool)
  | numeral (value : Numeral)
  | str (content : List Piece)
  | arr (items : List Tree)
  | obj (members : List (List Piece × Tree))
deriving Repr

mutual

def readValue : Nat → List Token → Option (Tree × List Token)
  | 0, _ => none
  | fuel + 1, tokens => match tokens with
    | .null :: rest => some (.null, rest)
    | .bool value :: rest => some (.bool value, rest)
    | .numeral value :: rest => some (.numeral value, rest)
    | .str content :: rest => some (.str content, rest)
    | .openBracket :: .closeBracket :: rest => some (.arr [], rest)
    | .openBracket :: rest => do
      let (item, rest) ← readValue fuel rest
      let (items, rest) ← readItems fuel rest
      return (.arr (item :: items), rest)
    | .openBrace :: .closeBrace :: rest => some (.obj [], rest)
    | .openBrace :: .str name :: .colon :: rest => do
      let (value, rest) ← readValue fuel rest
      let (members, rest) ← readMembers fuel rest
      return (.obj ((name, value) :: members), rest)
    | _ => none

def readItems : Nat → List Token → Option (List Tree × List Token)
  | 0, _ => none
  | fuel + 1, tokens => match tokens with
    | .closeBracket :: rest => some ([], rest)
    | .comma :: rest => do
      let (item, rest) ← readValue fuel rest
      let (items, rest) ← readItems fuel rest
      return (item :: items, rest)
    | _ => none

def readMembers : Nat → List Token → Option (List (List Piece × Tree) × List Token)
  | 0, _ => none
  | fuel + 1, tokens => match tokens with
    | .closeBrace :: rest => some ([], rest)
    | .comma :: .str name :: .colon :: rest => do
      let (value, rest) ← readValue fuel rest
      let (members, rest) ← readMembers fuel rest
      return ((name, value) :: members, rest)
    | _ => none

end

def tree? (units : List (Option Char)) : Option Tree := do
  let tokens ← tokens? units
  let (tree, rest) ← readValue (tokens.length + 1) tokens
  if rest.isEmpty then return tree else none

def pair (high low : Nat) : Char := Char.ofNat (0x10000 + (high - 0xd800) * 0x400 + (low - 0xdc00))

def isHighSurrogate (code : Nat) : Bool := 0xd800 ≤ code && code ≤ 0xdbff

def isLowSurrogate (code : Nat) : Bool := 0xdc00 ≤ code && code ≤ 0xdfff

-- The characters of a string's content: escaped surrogates must come in pairs, and every byte must belong to a
-- character.
def content? : List Piece → Option (List Char)
  | [] => some []
  | .char c :: rest => (content? rest).map (c :: ·)
  | .stray :: _ => none
  | .unit code :: rest =>
    if isHighSurrogate code then
      match rest with
      | .unit low :: rest' =>
        if isLowSurrogate low then (content? rest').map (pair code low :: ·) else none
      | _ => none
    else if isLowSurrogate code then none
    else (content? rest).map (Char.ofNat code :: ·)

end CacheTiers.Json
