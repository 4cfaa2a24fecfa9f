import CacheTiers.Error
import CacheTiers.Json.Value
import CacheTiers.Json.Writer
import CacheTiers.Words

namespace CacheTiers

inductive ValueType where
  | bool
  | natural (bits : Nat)
  | integer (bits : Nat)
  | str
  | optional (of : ValueType)
  | list (of : ValueType)
  | tuple (parts : List ValueType)
  | record (fields : List (String × ValueType))
  | json
deriving Repr

namespace ValueType

open Json (Tree Numeral content?)

mutual

def decEq : (a b : ValueType) → Decidable (a = b)
  | bool, b => match b with
    | bool => isTrue rfl
    | natural _ | integer _ | str | optional _ | list _ | tuple _ | record _ | json => isFalse nofun
  | natural m, b => match b with
    | natural n => if same : m = n then isTrue (same ▸ rfl) else isFalse fun h => same (natural.inj h)
    | bool | integer _ | str | optional _ | list _ | tuple _ | record _ | json => isFalse nofun
  | integer m, b => match b with
    | integer n => if same : m = n then isTrue (same ▸ rfl) else isFalse fun h => same (integer.inj h)
    | bool | natural _ | str | optional _ | list _ | tuple _ | record _ | json => isFalse nofun
  | str, b => match b with
    | str => isTrue rfl
    | bool | natural _ | integer _ | optional _ | list _ | tuple _ | record _ | json => isFalse nofun
  | optional s, b => match b with
    | optional t => match decEq s t with
      | isTrue same => isTrue (same ▸ rfl)
      | isFalse different => isFalse fun h => different (optional.inj h)
    | bool | natural _ | integer _ | str | list _ | tuple _ | record _ | json => isFalse nofun
  | list s, b => match b with
    | list t => match decEq s t with
      | isTrue same => isTrue (same ▸ rfl)
      | isFalse different => isFalse fun h => different (list.inj h)
    | bool | natural _ | integer _ | str | optional _ | tuple _ | record _ | json => isFalse nofun
  | tuple ss, b => match b with
    | tuple ts => match decEqParts ss ts with
      | isTrue same => isTrue (same ▸ rfl)
      | isFalse different => isFalse fun h => different (tuple.inj h)
    | bool | natural _ | integer _ | str | optional _ | list _ | record _ | json => isFalse nofun
  | record ss, b => match b with
    | record ts => match decEqFields ss ts with
      | isTrue same => isTrue (same ▸ rfl)
      | isFalse different => isFalse fun h => different (record.inj h)
    | bool | natural _ | integer _ | str | optional _ | list _ | tuple _ | json => isFalse nofun
  | json, b => match b with
    | json => isTrue rfl
    | bool | natural _ | integer _ | str | optional _ | list _ | tuple _ | record _ => isFalse nofun

def decEqParts : (ss ts : List ValueType) → Decidable (ss = ts)
  | [], [] => isTrue rfl
  | [], _ :: _ | _ :: _, [] => isFalse nofun
  | s :: ss, t :: ts => match decEq s t with
    | isFalse different => isFalse fun h => different (List.cons.inj h).1
    | isTrue same => match decEqParts ss ts with
      | isTrue rest => isTrue (same ▸ rest ▸ rfl)
      | isFalse different => isFalse fun h => different (List.cons.inj h).2

def decEqFields : (ss ts : List (String × ValueType)) → Decidable (ss = ts)
  | [], [] => isTrue rfl
  | [], _ :: _ | _ :: _, [] => isFalse nofun
  | (a, s) :: ss, (b, t) :: ts =>
    if names : a = b then match decEq s t with
      | isFalse different => isFalse fun h => different (Prod.mk.inj (List.cons.inj h).1).2
      | isTrue same => match decEqFields ss ts with
        | isTrue rest => isTrue (names ▸ same ▸ rest ▸ rfl)
        | isFalse different => isFalse fun h => different (List.cons.inj h).2
    else isFalse fun h => names (Prod.mk.inj (List.cons.inj h).1).1

end

instance : DecidableEq ValueType := decEq

def arity : ValueType → Nat
  | tuple parts => parts.length
  | bool | natural _ | integer _ | str | optional _ | list _ | record _ | json => 1

end ValueType

namespace Json

mutual

def fits : Json → Bool
  | int value => isSignedWord 64 value || isWord 64 value
  | arr items => fitsItems items
  | obj members => fitsMembers members
  | null | bool _ | str _ => true

def fitsItems : List Json → Bool
  | [] => true
  | item :: rest => item.fits && fitsItems rest

def fitsMembers : List (String × Json) → Bool
  | [] => true
  | (_, value) :: rest => value.fits && fitsMembers rest

end

end Json

namespace ValueType

open Json (Tree Numeral Piece content?)

def membersNamed (name : String) (members : List (String × Tree)) : List Tree :=
  (members.filter fun member => member.1 = name).map Prod.snd

def namedMembers? : List (List Piece × Tree) → Option (List (String × Tree))
  | [] => some []
  | (name, tree) :: rest => do
    let name ← content? name
    let members ← namedMembers? rest
    return (String.ofList name, tree) :: members

def readAll (read : Tree → Option Json) : List Tree → Option (List Json)
  | [] => some []
  | tree :: rest => do
    let value ← read tree
    let values ← readAll read rest
    return value :: values

mutual

def read? (depth : Nat) : ValueType → Tree → Option Json
  | .bool, tree => match tree with
    | .bool value => some (.bool value)
    | _ => none
  | .natural bits, tree => match tree with
    | .numeral numeral => do
      let value ← numeral.toInt?
      if isWord bits value then return .int value else none
    | _ => none
  | .integer bits, tree => match tree with
    | .numeral numeral => do
      let value ← numeral.toInt?
      if isSignedWord bits value then return .int value else none
    | _ => none
  | .str, tree => match tree with
    | .str content => (content? content).map fun text => .str (String.ofList text)
    | _ => none
  | .optional type, tree => match tree with
    | .null => some .null
    | tree => read? depth type tree
  | .list type, tree => match depth, tree with
    | depth + 1, .arr items => (readAll (read? depth type) items).map .arr
    | _, _ => none
  | .tuple types, tree => match depth, tree with
    | depth + 1, .arr items => (readParts? depth types items).map .arr
    | _, _ => none
  | .record fields, tree => match depth, tree with
    | depth + 1, .arr items => (readFieldList? depth fields items).map .obj
    | depth + 1, .obj members => do
      let members ← namedMembers? members
      (readFields? depth fields members).map .obj
    | _, _ => none
  | .json, tree => Json.ofTree? depth tree

def readParts? (depth : Nat) : List ValueType → List Tree → Option (List Json)
  | [], [] => some []
  | type :: types, tree :: trees => do
    let value ← read? depth type tree
    let values ← readParts? depth types trees
    return value :: values
  | [], _ :: _ | _ :: _, [] => none

def readFieldList? (depth : Nat) : List (String × ValueType) → List Tree → Option (List (String × Json))
  | [], [] => some []
  | (name, type) :: fields, tree :: trees => do
    let value ← read? depth type tree
    let values ← readFieldList? depth fields trees
    return (name, value) :: values
  | [], _ :: _ | _ :: _, [] => none

-- Reads the fields of a record from the members of an object. A field must not occur twice; only an optional one may
-- be missing. Members of other names are passed over.
def readFields? (depth : Nat) : List (String × ValueType) → List (String × Tree) → Option (List (String × Json))
  | [], _ => some []
  | (name, type) :: fields, members => do
    let value ← match membersNamed name members with
      | [tree] => read? depth type tree
      | [] => match type with
        | .optional _ => some .null
        | _ => none
      | _ :: _ :: _ => none
    let values ← readFields? depth fields members
    return (name, value) :: values

end

def ofUnits? (type : ValueType) (units : List (Option Char)) : Option Json := do
  let tree ← Json.tree? units
  read? Json.maxDepth type tree

mutual

def admits : ValueType → Json → Bool
  | .bool, value => match value with
    | .bool _ => true
    | _ => false
  | .natural bits, value => match value with
    | .int n => isWord bits n
    | _ => false
  | .integer bits, value => match value with
    | .int n => isSignedWord bits n
    | _ => false
  | .str, value => match value with
    | .str _ => true
    | _ => false
  | .optional type, value => value == .null || admits type value
  | .list type, value => match value with
    | .arr items => items.all (admits type)
    | _ => false
  | .tuple types, value => match value with
    | .arr items => admitsParts types items
    | _ => false
  | .record fields, value => match value with
    | .obj members => admitsFields fields members
    | _ => false
  | .json, value => value.canonical == value && value.fits

def admitsParts : List ValueType → List Json → Bool
  | [], [] => true
  | type :: types, value :: values => admits type value && admitsParts types values
  | [], _ :: _ | _ :: _, [] => false

def admitsFields : List (String × ValueType) → List (String × Json) → Bool
  | [], [] => true
  | (name, type) :: fields, (other, value) :: values =>
    name == other && admits type value && admitsFields fields values
  | [], _ :: _ | _ :: _, [] => false

end

end ValueType

def serialize (value : Json) : List UInt8 := Text.encode value.write

def deserialize (type : ValueType) (bytes : List UInt8) : Except CacheError Json :=
  match type.ofUnits? (Text.decode bytes) with
  | some value => .ok value
  | none => .error (.serialization "the bytes are no JSON text of the expected type")

end CacheTiers
