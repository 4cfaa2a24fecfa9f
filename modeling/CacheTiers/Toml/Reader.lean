import CacheTiers.Pieces
import CacheTiers.Toml.Scalar
import CacheTiers.Toml.Token

namespace CacheTiers.Toml

def nestingLimit : Nat := 80

def Token.isBlank : Token → Bool
  | .blank _ => true
  | _ => false

def Token.isSpacing : Token → Bool
  | .blank _ | .newline => true
  | _ => false

def Token.isOfKey : Token → Bool
  | .blank _ | .word _ | .sign _ | .str .. => true
  | _ => false

def Token.chars : Token → List Char
  | .word chars => chars
  | .sign c => [c]
  | _ => []

def Token.isOfWord : Token → Bool
  | .word _ | .sign _ => true
  | _ => false

def skipBlanks (tokens : List Token) : List Token := tokens.dropWhile Token.isBlank

def skipSpacing (tokens : List Token) : List Token := tokens.dropWhile Token.isSpacing

def Token.isPoint (token : Token) : Bool := token = .sign '.'

def part? (group : List Token) : Option String :=
  match group.filter fun token => !token.isBlank with
  | [.word chars] => some (String.ofList chars)
  | [.str text false] => some text
  | _ => none

def pathOf? : List String → Option Path
  | [] => none
  | [name] => some ⟨[], name⟩
  | name :: rest => (pathOf? rest).map fun path => ⟨name :: path.way, path.name⟩

def readKey (tokens : List Token) : Option (Path × List Token) := do
  let parts ← (pieces Token.isPoint (tokens.takeWhile Token.isOfKey)).mapM part?
  let path ← pathOf? parts
  if parts.length < nestingLimit then return (path, tokens.dropWhile Token.isOfKey) else none

-- Reads a value that is written as a word. A date may be followed by a single space and a time.
def readWord (tokens : List Token) : Option (Value × List Token) := do
  let chars := (tokens.takeWhile Token.isOfWord).flatMap Token.chars
  let rest := tokens.dropWhile Token.isOfWord
  let value ← word? chars
  match rest with
  | .blank ' ' :: later =>
    let time := (later.takeWhile Token.isOfWord).flatMap Token.chars
    if isDate chars && isZonedTime time then return (value, later.dropWhile Token.isOfWord)
    else return (value, rest)
  | _ => return (value, rest)

mutual

def readValue : Nat → Nat → List Token → Option (Value × List Token)
  | 0, _, _ => none
  | fuel + 1, depth, tokens => match depth, tokens with
    | _, .str text _ :: rest => some (.str text, rest)
    | depth + 1, .openBracket :: rest => do
      let (items, rest) ← readItems fuel depth (skipSpacing rest)
      return (.array false items, rest)
    | depth + 1, .openBrace :: rest => do
      let (values, rest) ← match skipBlanks rest with
        | .closeBrace :: rest => some ([], rest)
        | rest => readMembers fuel depth rest
      return (← inlineTable? values, rest)
    | _, tokens => readWord tokens

def readItems : Nat → Nat → List Token → Option (List Value × List Token)
  | 0, _, _ => none
  | fuel + 1, depth, tokens => match tokens with
    | .closeBracket :: rest => some ([], rest)
    | tokens => do
      let (item, rest) ← readValue fuel depth tokens
      match skipSpacing rest with
      | .closeBracket :: rest => return ([item], rest)
      | .comma :: rest =>
        let (items, rest) ← readItems fuel depth (skipSpacing rest)
        return (item :: items, rest)
      | _ => none

def readMembers : Nat → Nat → List Token → Option (List (Path × Value) × List Token)
  | 0, _, _ => none
  | fuel + 1, depth, tokens => do
    match ← readKey tokens with
    | (path, .equals :: rest) =>
      let (value, rest) ← readValue fuel depth (skipBlanks rest)
      match skipBlanks rest with
      | .closeBrace :: rest => return ([(path, value)], rest)
      | .comma :: rest =>
        let (values, rest) ← readMembers fuel depth rest
        return ((path, value) :: values, rest)
      | _ => none
    | _ => none

end

inductive Statement where
  | header (heading : Heading) (path : Path)
  | value (path : Path) (value : Value)
deriving Repr

def readHeader (tokens : List Token) : Option (Statement × List Token) :=
  match tokens with
  | .openBracket :: .openBracket :: rest => do
    match ← readKey rest with
    | (path, .closeBracket :: .closeBracket :: rest) => return (.header .item path, rest)
    | _ => none
  | .openBracket :: rest => do
    match ← readKey rest with
    | (path, .closeBracket :: rest) => return (.header .table path, rest)
    | _ => none
  | _ => none

def readNamed (tokens : List Token) : Option (Statement × List Token) := do
  match ← readKey tokens with
  | (path, .equals :: rest) =>
    let (value, rest) ← readValue (rest.length + 1) (nestingLimit - 1) (skipBlanks rest)
    return (.value path value, rest)
  | _ => none

def readLineEnd (tokens : List Token) : Option (List Token) :=
  match skipBlanks tokens with
  | [] => some []
  | .newline :: rest => some rest
  | _ => none

def readStatements : Nat → List Token → Option (List Statement)
  | 0, _ => none
  | fuel + 1, tokens => match skipSpacing tokens with
    | [] => some []
    | .openBracket :: rest => do
      let (statement, rest) ← readHeader (.openBracket :: rest)
      return statement :: (← readStatements fuel (← readLineEnd rest))
    | tokens => do
      let (statement, rest) ← readNamed tokens
      return statement :: (← readStatements fuel (← readLineEnd rest))

def sections : List Statement → List (Path × Value) × List Section
  | [] => ([], [])
  | .header heading path :: rest =>
    let (values, parts) := sections rest
    ([], ⟨heading, path, values⟩ :: parts)
  | .value path value :: rest =>
    let (values, parts) := sections rest
    ((path, value) :: values, parts)

def read? (text : List Char) : Option Entries := do
  let tokens ← tokens? text
  let statements ← readStatements (tokens.length + 1) tokens
  let (values, parts) := sections statements
  document? values parts

end CacheTiers.Toml
