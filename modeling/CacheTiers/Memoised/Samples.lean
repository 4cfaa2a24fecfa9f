import CacheTiers.Memoised.Basic
import CacheTiers.Text.Upper
import CacheTiers.Words

namespace CacheTiers.Memoised

abbrev number : ValueType := .natural 64

def wrapped (n : Int) : Json := .int (lowestBits 64 n)

def fails {R : Type} (message : String) : Except (Failure String) R := .error (.origin message)

def loadUser : Memoised Unit Json String where
  operation := "macro_user"
  arguments := [("id", number)]
  value := .str
  form := .plain
  body := .blocking fun _ arguments => match arguments with
    | [.int 0] => fails "no user 0"
    | [.int id] => .ok (.str s!"user-{id}")
    | _ => fails "no such arguments"

def findName : Memoised Unit (Option Json) String where
  operation := "macro_find"
  arguments := [("name", .str), ("limit", number)]
  value := .str
  form := .optional
  body := .blocking fun _ arguments => match arguments with
    | [.str name, .int limit] =>
      if name = "error" then fails "lookup failed"
      else if limit < name.toList.length then .ok none
      else .ok (some (.str (Text.upper name)))
    | _ => fails "no such arguments"

def lookupRegion : Memoised Unit (Option Json) String where
  operation := "macro_lookup"
  arguments := [("id", number), ("region", .str)]
  value := number
  form := .optional
  body := .suspending 1 fun _ arguments => match arguments with
    | [.int id, .str region] =>
      if region = "" then .ok none
      else if region = "error" then fails "no region"
      else .ok (some (wrapped (id * 10)))
    | _ => fails "no such arguments"

def textLength : Memoised Unit Json String where
  operation := "macro_length"
  arguments := [("text", .str)]
  value := number
  form := .plain
  body := .suspending 0 fun _ arguments => match arguments with
    | [.str text] => .ok (.int text.utf8ByteSize)
    | _ => fails "no such arguments"

def addBase : Memoised Int Json String where
  operation := "macro_repo"
  arguments := [("id", number)]
  value := number
  form := .plain
  body := .blocking fun base arguments => match arguments with
    | [.int id] => .ok (wrapped (base + id))
    | _ => fails "no such arguments"

end CacheTiers.Memoised
