import CacheTiers.Pieces

namespace CacheTiers.Text

def linesOf : List Char → List (List Char)
  | [] => []
  | '\n' :: rest => [] :: linesOf rest
  | '\r' :: '\n' :: rest => [] :: linesOf rest
  | c :: rest => addToFirst c (linesOf rest)

def lines (text : String) : List String := (linesOf text.toList).map String.ofList

end CacheTiers.Text
