namespace CacheTiers

inductive Json where
  | null
  | bool (value : Bool)
  | int (value : Int)
  | str (value : String)
  | arr (items : List Json)
  | obj (members : List (String × Json))
deriving Repr

namespace Json

instance : Inhabited Json := ⟨null⟩

mutual

def decEq : (a b : Json) → Decidable (a = b)
  | null, b => match b with
    | null => isTrue rfl
    | bool _ | int _ | str _ | arr _ | obj _ => isFalse nofun
  | bool x, b => match b with
    | bool y => if same : x = y then isTrue (same ▸ rfl) else isFalse fun h => same (bool.inj h)
    | null | int _ | str _ | arr _ | obj _ => isFalse nofun
  | int x, b => match b with
    | int y => if same : x = y then isTrue (same ▸ rfl) else isFalse fun h => same (int.inj h)
    | null | bool _ | str _ | arr _ | obj _ => isFalse nofun
  | str x, b => match b with
    | str y => if same : x = y then isTrue (same ▸ rfl) else isFalse fun h => same (str.inj h)
    | null | bool _ | int _ | arr _ | obj _ => isFalse nofun
  | arr xs, b => match b with
    | arr ys => match decEqItems xs ys with
      | isTrue same => isTrue (same ▸ rfl)
      | isFalse different => isFalse fun h => different (arr.inj h)
    | null | bool _ | int _ | str _ | obj _ => isFalse nofun
  | obj xs, b => match b with
    | obj ys => match decEqMembers xs ys with
      | isTrue same => isTrue (same ▸ rfl)
      | isFalse different => isFalse fun h => different (obj.inj h)
    | null | bool _ | int _ | str _ | arr _ => isFalse nofun

def decEqItems : (xs ys : List Json) → Decidable (xs = ys)
  | [], [] => isTrue rfl
  | [], _ :: _ | _ :: _, [] => isFalse nofun
  | x :: xs, y :: ys => match decEq x y with
    | isFalse different => isFalse fun h => different (List.cons.inj h).1
    | isTrue same => match decEqItems xs ys with
      | isTrue rest => isTrue (same ▸ rest ▸ rfl)
      | isFalse different => isFalse fun h => different (List.cons.inj h).2

def decEqMembers : (xs ys : List (String × Json)) → Decidable (xs = ys)
  | [], [] => isTrue rfl
  | [], _ :: _ | _ :: _, [] => isFalse nofun
  | (a, x) :: xs, (b, y) :: ys =>
    if names : a = b then match decEq x y with
      | isFalse different => isFalse fun h => different (Prod.mk.inj (List.cons.inj h).1).2
      | isTrue same => match decEqMembers xs ys with
        | isTrue rest => isTrue (names ▸ same ▸ rest ▸ rfl)
        | isFalse different => isFalse fun h => different (List.cons.inj h).2
    else isFalse fun h => names (Prod.mk.inj (List.cons.inj h).1).1

end

instance : DecidableEq Json := decEq

def insertMember (name : String) (value : Json) : List (String × Json) → List (String × Json)
  | [] => [(name, value)]
  | (other, old) :: rest =>
    if name = other then (name, value) :: rest
    else if name < other then (name, value) :: (other, old) :: rest
    else (other, old) :: insertMember name value rest

def object (members : List (String × Json)) : Json :=
  obj (members.foldl (fun entered member => insertMember member.1 member.2 entered) [])

mutual

def depth : Json → Nat
  | arr items => depthOfItems items + 1
  | obj members => depthOfMembers members + 1
  | null | bool _ | int _ | str _ => 0

def depthOfItems : List Json → Nat
  | [] => 0
  | item :: rest => max item.depth (depthOfItems rest)

def depthOfMembers : List (String × Json) → Nat
  | [] => 0
  | (_, value) :: rest => max value.depth (depthOfMembers rest)

end

mutual

-- The value with the members of every object in ascending order, the last of one name winning.
def canonical : Json → Json
  | arr items => arr (canonicalItems items)
  | obj members => object (canonicalMembers members)
  | null => null
  | bool value => bool value
  | int value => int value
  | str value => str value

def canonicalItems : List Json → List Json
  | [] => []
  | item :: rest => item.canonical :: canonicalItems rest

def canonicalMembers : List (String × Json) → List (String × Json)
  | [] => []
  | (name, value) :: rest => (name, value.canonical) :: canonicalMembers rest

end

end Json

end CacheTiers
