import CacheTiers.Json.Token
import CacheTiers.Pieces
import CacheTiers.Words

namespace CacheTiers

open Json (isDigit digitsValue hexDigit?)

structure Url where
  scheme : String
  user : List Char
  password : Option (List Char)
  host : Option (List Char)
  port : Option Nat
  path : List Char
  query : List Char
deriving Repr

namespace Url

-- The characters of an address: control characters and spaces around it, and line ends and tabs within it, do not
-- count.
def clean (text : String) : List Char :=
  let isEdge := fun c : Char => c.toNat ≤ 0x20
  let trimmed := ((text.toList.dropWhile isEdge).reverse.dropWhile isEdge).reverse
  trimmed.filter fun c => c ≠ '\t' && c ≠ '\n' && c ≠ '\r'

def scheme? (chars : List Char) : Option String :=
  match chars with
  | first :: rest =>
    if first.isAlpha && rest.all fun c => c.isAlphanum || c = '+' || c = '-' || c = '.' then
      some (String.ofList (chars.map Char.toLower))
    else none
  | [] => none

def isOctet (chars : List Char) : Bool :=
  !chars.isEmpty && chars.all isDigit && digitsValue chars ≤ 255
    && (chars.length = 1 || chars.head? ≠ some '0')

def isIPv4 (chars : List Char) : Bool :=
  let parts := pieces (· = '.') chars
  parts.length = 4 && parts.all isOctet

def isGroup (chars : List Char) : Bool :=
  !chars.isEmpty && chars.length ≤ 4 && chars.all fun c => (hexDigit? c).isSome

-- How many groups the parts between colons are; an IPv4 address counts for two, and may only stand at the end.
def groupCount? : List (List Char) → Option Nat
  | [] => some 0
  | [last] => if isGroup last then some 1 else if isIPv4 last then some 2 else none
  | part :: rest => if isGroup part then (groupCount? rest).map (· + 1) else none

def cutDouble : List Char → Option (List Char × List Char)
  | ':' :: ':' :: rest => some ([], rest)
  | c :: rest => (cutDouble rest).map fun (before, after) => (c :: before, after)
  | [] => none

def sideCount? (side : List Char) : Option Nat :=
  if side.isEmpty then some 0 else groupCount? (pieces (· = ':') side)

def isIPv6 (chars : List Char) : Bool :=
  match cutDouble chars with
  | none => groupCount? (pieces (· = ':') chars) = some 8
  | some (before, after) =>
    !before.contains '.'
      && match sideCount? before, sideCount? after with
        | some left, some right => left + right ≤ 7
        | _, _ => false

def isNoHostChar (c : Char) : Bool :=
  c = '\x00' || c = ' ' || "#/:<>?@[\\]^|".toList.contains c

def isHost (chars : List Char) : Bool :=
  match chars with
  | '[' :: rest => rest.getLast? = some ']' && isIPv6 rest.dropLast
  | chars => !chars.any isNoHostChar

def splitHost (bracketed : Bool) : List Char → List Char × List Char
  | [] => ([], [])
  | c :: rest =>
    if c = ':' && !bracketed then ([], c :: rest)
    else
      let bracketed := c = '[' || (bracketed && c ≠ ']')
      let (host, port) := splitHost bracketed rest
      (c :: host, port)

-- The port with the colon before it, and what follows it. The number may be left out, with or without the colon. A
-- backslash ends a port as a slash does, and is then part of the path.
def port? : List Char → Option (Option Nat × List Char)
  | [] => some (none, [])
  | ':' :: rest =>
    let digits := rest.takeWhile isDigit
    let behind := rest.dropWhile isDigit
    if (behind.isEmpty || behind.head? = some '\\') && digitsValue digits < wordCount 16 then
      some (if digits.isEmpty then none else some (digitsValue digits), behind)
    else none
  | _ => none

-- Reads what stands between the two slashes and the path. Without a host there is neither a user nor a port.
def withAuthority? (url : Url) (authority : List Char) : Option Url := do
  let (userinfo, site) := cutLast (· = '@') authority
  let (user, password) := match userinfo with
    | none => ([], none)
    | some userinfo => cutFirst (· = ':') userinfo
  let password := password.filter (!·.isEmpty)
  let (host, port) := splitHost false site
  if !isHost host then none
  let (number, behind) ← port? port
  if host.isEmpty then
    if userinfo = some [] || !user.isEmpty || password.isSome || !port.isEmpty then none
    else return url
  else
    let path := if behind.isEmpty then url.path else '/' :: behind ++ url.path
    return { url with user, password, host := some host, port := number, path }

def parse? (text : String) : Option Url := do
  let (scheme, rest) := cutFirst (· = ':') (clean text)
  let scheme ← scheme? scheme
  let (rest, _) := cutFirst (· = '#') (← rest)
  let (rest, query) := cutFirst (· = '?') rest
  let url : Url := ⟨scheme, [], none, none, none, rest, query.getD []⟩
  match rest with
  | '/' :: '/' :: rest =>
    withAuthority? { url with path := rest.dropWhile (· ≠ '/') } (rest.takeWhile (· ≠ '/'))
  | _ => return url

def isDot (segment : List Char) : Bool :=
  let lower := segment.map Char.toLower
  lower = ['.'] || lower = "%2e".toList

def isDotDot (segment : List Char) : Bool :=
  let lower := segment.map Char.toLower
  lower = "..".toList || lower = ".%2e".toList || lower = "%2e.".toList || lower = "%2e%2e".toList

-- Whether a segment names a drive: a letter and a colon or a bar, with nothing behind them or a backslash. Nothing
-- leads back over a drive.
def isDrive : List Char → Bool
  | letter :: mark :: rest =>
    letter.isAlpha && (mark = ':' || mark = '|') && (rest.isEmpty || rest.head? = some '\\')
  | _ => false

def leaveLast (segments : List (List Char)) : List (List Char) :=
  if segments.getLast?.any isDrive then segments else segments.dropLast

-- Carries out the segments that stand for themselves or lead back, behind those that are `kept`. A path that ends
-- with such a segment ends with a slash.
def follow (kept : List (List Char)) : List (List Char) → List (List Char)
  | [] => kept
  | segment :: rest =>
    if isDotDot segment || isDot segment then
      let kept := if isDotDot segment then leaveLast kept else kept
      if rest.isEmpty then kept ++ [[]] else follow kept rest
    else follow (kept ++ [segment]) rest

def segments (path : List Char) : List (List Char) := follow [] (pieces (· = '/') (path.drop 1))

def plainPath (path : List Char) : List Char := (segments path).flatMap fun segment => '/' :: segment

end Url

end CacheTiers
