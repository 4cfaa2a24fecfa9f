import CacheTiers.Json.Token

namespace CacheTiers.Toml

inductive Token where
  | blank (c : Char)
  | newline
  | word (chars : List Char)
  | sign (c : Char)
  | str (text : String) (block : Bool)
  | equals
  | comma
  | openBracket
  | closeBracket
  | openBrace
  | closeBrace
deriving DecidableEq, Repr

def unifyLineEnds? : List Char → Option (List Char)
  | [] => some []
  | '\r' :: '\n' :: rest => (unifyLineEnds? rest).map ('\n' :: ·)
  | c :: rest => if c = '\r' then none else (unifyLineEnds? rest).map (c :: ·)

def isPlain (c : Char) : Bool := c = '\t' || (0x20 ≤ c.toNat && c.toNat ≠ 0x7f)

def isBlank (c : Char) : Bool := c = ' ' || c = '\t'

def isBare (c : Char) : Bool :=
  ('a' ≤ c && c ≤ 'z') || ('A' ≤ c && c ≤ 'Z') || ('0' ≤ c && c ≤ '9') || c = '-' || c = '_'

def punctuation? : Char → Option Token
  | '\n' => some .newline
  | '.' => some (.sign '.')
  | '+' => some (.sign '+')
  | ':' => some (.sign ':')
  | '=' => some .equals
  | ',' => some .comma
  | '[' => some .openBracket
  | ']' => some .closeBracket
  | '\x7b' => some .openBrace
  | '\x7d' => some .closeBrace
  | _ => none

def shortEscape? : Char → Option Char
  | '"' => some '"'
  | '\\' => some '\\'
  | 'b' => some '\x08'
  | 'f' => some '\x0c'
  | 'n' => some '\n'
  | 'r' => some '\r'
  | 't' => some '\t'
  | _ => none

def scalar? (code : Nat) : Option Char :=
  if code.isValidChar then some (Char.ofNat code) else none

inductive Quote where
  | double
  | single
deriving DecidableEq, Repr

def Quote.char : Quote → Char
  | double => '"'
  | single => '\''

inductive Lexing where
  | between
  | comment
  | word (seen : List Char)
  | opening (quote : Quote) (two : Bool)
  | line (quote : Quote) (seen : List Char)
  -- In a string of many lines, behind `closing` quotes; `fresh` where nothing came yet.
  | block (quote : Quote) (fresh : Bool) (seen : List Char) (closing : Nat)
  | escape (block : Bool) (seen : List Char)
  | code (block : Bool) (seen : List Char) (missing value : Nat)
  -- Behind a backslash that ends a line; `ended` once the line has ended.
  | fold (ended : Bool) (seen : List Char)
deriving DecidableEq, Repr

def strToken (block : Bool) (seen : List Char) : Token := .str (String.ofList seen.reverse) block

def inside (block : Bool) (seen : List Char) : Lexing :=
  if block then .block .double false seen 0 else .line .double seen

def start (c : Char) : Option (List Token × Lexing) :=
  if isBlank c then some ([.blank c], .between)
  else if c = '#' then some ([], .comment)
  else if c = '"' then some ([], .opening .double false)
  else if c = '\'' then some ([], .opening .single false)
  else if isBare c then some ([], .word [c])
  else (punctuation? c).map fun token => ([token], .between)

def complete (token : Token) (c : Char) : Option (List Token × Lexing) := do
  let (tokens, next) ← start c
  return (token :: tokens, next)

def inLine (quote : Quote) (seen : List Char) (c : Char) : Option (List Token × Lexing) :=
  if c = quote.char then some ([strToken false seen], .between)
  else if quote = .double ∧ c = '\\' then some ([], .escape false seen)
  else if isPlain c then some ([], .line quote (c :: seen))
  else none

def inBlock (quote : Quote) (fresh : Bool) (seen : List Char) (c : Char) :
    Option (List Token × Lexing) :=
  if c = '\n' then some ([], .block quote false (if fresh then seen else c :: seen) 0)
  else if quote = .double ∧ c = '\\' then some ([], .escape true seen)
  else if isPlain c then some ([], .block quote false (c :: seen) 0)
  else none

def surplus (quote : Quote) (closing : Nat) : List Char := List.replicate (closing - 3) quote.char

def advance (lexing : Lexing) (c : Char) : Option (List Token × Lexing) :=
  match lexing with
  | .between => start c
  | .comment =>
    if c = '\n' then some ([.newline], .between)
    else if isPlain c then some ([], .comment)
    else none
  | .word seen =>
    if isBare c then some ([], .word (c :: seen)) else complete (.word seen.reverse) c
  | .opening quote false =>
    if c = quote.char then some ([], .opening quote true) else inLine quote [] c
  | .opening quote true =>
    if c = quote.char then some ([], .block quote true [] 0) else complete (strToken false []) c
  | .line quote seen => inLine quote seen c
  | .block quote fresh seen closing =>
    if c = quote.char then
      if closing = 4 then some ([strToken true (surplus quote 5 ++ seen)], .between)
      else some ([], .block quote false seen (closing + 1))
    else if 3 ≤ closing then complete (strToken true (surplus quote closing ++ seen)) c
    else inBlock quote fresh (List.replicate closing quote.char ++ seen) c
  | .escape block seen =>
    if c = 'u' then some ([], .code block seen 3 0)
    else if c = 'U' then some ([], .code block seen 7 0)
    else if block ∧ isBlank c then some ([], .fold false seen)
    else if block ∧ c = '\n' then some ([], .fold true seen)
    else (shortEscape? c).map fun meant => ([], inside block (meant :: seen))
  | .code block seen missing value => do
    let value := value * 16 + (← Json.hexDigit? c)
    match missing with
    | 0 => return ([], inside block ((← scalar? value) :: seen))
    | missing + 1 => return ([], .code block seen missing value)
  | .fold ended seen =>
    if c = '\n' then some ([], .fold true seen)
    else if isBlank c then some ([], .fold ended seen)
    else if ended then
      if c = '"' then some ([], .block .double false seen 1) else inBlock .double false seen c
    else none

def finishLexing : Lexing → Option (List Token)
  | .between | .comment => some []
  | .word seen => some [.word seen.reverse]
  | .opening _ true => some [strToken false []]
  | .block quote _ seen closing =>
    if 3 ≤ closing then some [strToken true (surplus quote closing ++ seen)] else none
  | .opening _ false | .line .. | .escape .. | .code .. | .fold .. => none

def tokensFrom (lexing : Lexing) : List Char → Option (List Token)
  | [] => finishLexing lexing
  | c :: rest => do
    let (tokens, next) ← advance lexing c
    let later ← tokensFrom next rest
    return tokens ++ later

def withoutMark : List Char → List Char
  | '\ufeff' :: rest => rest
  | chars => chars

def tokens? (text : List Char) : Option (List Token) := do
  let chars ← unifyLineEnds? (withoutMark text)
  tokensFrom .between chars

end CacheTiers.Toml
