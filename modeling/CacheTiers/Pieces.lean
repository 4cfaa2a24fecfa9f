namespace CacheTiers

variable {A : Type}

def addToFirst (a : A) : List (List A) → List (List A)
  | [] => [[a]]
  | piece :: rest => (a :: piece) :: rest

def pieces (isMark : A → Bool) : List A → List (List A)
  | [] => [[]]
  | a :: rest => if isMark a then [] :: pieces isMark rest else addToFirst a (pieces isMark rest)

def cutFirst (isMark : A → Bool) : List A → List A × Option (List A)
  | [] => ([], none)
  | a :: rest =>
    if isMark a then ([], some rest)
    else
      let (before, after) := cutFirst isMark rest
      (a :: before, after)

def cutLast (isMark : A → Bool) (list : List A) : Option (List A) × List A :=
  let (after, before) := cutFirst isMark list.reverse
  (before.map List.reverse, after.reverse)

end CacheTiers
