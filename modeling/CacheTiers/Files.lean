import CacheTiers.Error
import CacheTiers.Pieces
import CacheTiers.Table

namespace CacheTiers

abbrev Location := List String

structure Files where
  contents : Table Location (List UInt8)

namespace Files

def location (path : String) : Location :=
  ((pieces (· = '/') path.toList).map String.ofList).filter fun name => name ≠ "" && name ≠ "."

def ofList (files : List (String × List UInt8)) : Files :=
  ⟨Table.ofList (files.map fun file => (location file.1, file.2))⟩

def isFile (files : Files) (location : Location) : Bool := files.contents.contains location

def isDirectory (files : Files) (location : Location) : Bool :=
  location.isEmpty
    || files.contents.keys.any fun file => location.isPrefixOf file && location.length < file.length

inductive Place where
  | inside (location : Location)
  | outside
deriving DecidableEq, Repr

def step (files : Files) (place : Place) (name : String) : Except FileFault Place :=
  match place with
  | .outside => if name = "" || name = "." || name = ".." then .ok .outside else .error .notFound
  | .inside location =>
    if files.isFile location then .error .notADirectory
    else if name = "" || name = "." then .ok place
    else if name = ".." then
      if location.isEmpty then .ok .outside else .ok (.inside location.dropLast)
    else
      let next := location ++ [name]
      if files.isFile next || files.isDirectory next then .ok (.inside next) else .error .notFound

def walk (files : Files) : Place → List String → Except FileFault Place
  | place, [] => .ok place
  | place, name :: rest => do
    let next ← files.step place name
    files.walk next rest

def read (files : Files) (path : String) : Except FileFault (List UInt8) :=
  if path = "" then .error .notFound
  else
    let names := (pieces (· = '/') path.toList).map String.ofList
    let walked := match names with
      | "" :: rest => files.walk .outside rest
      | names => files.walk (.inside []) names
    match walked with
    | .error fault => .error fault
    | .ok .outside => .error .isADirectory
    | .ok (.inside location) => match files.contents.find? location with
      | some content => .ok content
      | none => .error .isADirectory

end Files

end CacheTiers
