namespace CacheTiers.Command

inductive Task where
  | validate
  | describe
deriving DecidableEq, Repr

def Task.text : Task → String
  | validate => "validate"
  | describe => "describe"

def Task.ofText? : String → Option Task
  | "validate" => some validate
  | "describe" => some describe
  | _ => none

structure Request where
  task : Task
  path : String
deriving DecidableEq, Repr

inductive Usage where
  | help
  | version
  | nothing
  | missingArgument
  | unknownArgument
  | unknownTask
  | emptyPath
  | surplusValue
deriving DecidableEq, Repr

def Usage.exitCode : Usage → Nat
  | help | version => 0
  | nothing | missingArgument | unknownArgument | unknownTask | emptyPath | surplusValue => 2

inductive Reading where
  | dashes
  | option (usage : Usage)
  | word
deriving DecidableEq, Repr

def longOption (withVersion : Bool) (chars : List Char) : Usage :=
  let name := chars.takeWhile (· ≠ '=')
  let known :=
    if name = "help".toList then some Usage.help
    else if withVersion && name = "version".toList then some .version
    else none
  match known with
  | none => .unknownArgument
  | some usage => if name.length < chars.length then .surplusValue else usage

def shortOption (withVersion : Bool) (letter : Char) : Usage :=
  if letter = 'h' then .help
  else if withVersion && letter = 'V' then .version
  else .unknownArgument

def read (withVersion : Bool) (argument : String) : Reading :=
  match argument.toList with
  | ['-', '-'] => .dashes
  | '-' :: '-' :: rest => .option (longOption withVersion rest)
  | '-' :: letter :: _ => .option (shortOption withVersion letter)
  | _ => .word

def pathOf : Option String → Except Usage String
  | none => .error .missingArgument
  | some path => if path = "" then .error .emptyPath else .ok path

-- An option that ends the reading. Where it is a known one, an empty path before it is noticed first.
def endAt (usage : Usage) (path : Option String) : Usage :=
  if usage = .help && path = some "" then .emptyPath else usage

def readPath (dashed : Bool) (path : Option String) : List String → Except Usage String
  | [] => pathOf path
  | argument :: rest =>
    match if dashed then .word else read false argument with
    | .dashes => readPath true path rest
    | .option usage => .error (endAt usage path)
    | .word => match path with
      | none => readPath dashed (some argument) rest
      | some _ => .error .unknownArgument

def helpWord : String := "help"

def helpOn : List String → Usage
  | [] => .help
  | [topic] => if (Task.ofText? topic).isSome || topic = helpWord then .help else .unknownTask
  | _ => .unknownTask

def behindDashes : List String → Usage
  | [] => .nothing
  | argument :: _ =>
    if (Task.ofText? argument).isSome || argument = helpWord then .unknownArgument else .unknownTask

def parse : List String → Except Usage Request
  | [] => .error .nothing
  | argument :: rest =>
    match Task.ofText? argument with
    | some task => (readPath false none rest).map fun path => ⟨task, path⟩
    | none =>
      if argument = helpWord then .error (helpOn rest)
      else match read true argument with
        | .dashes => .error (behindDashes rest)
        | .option usage => .error usage
        | .word => .error .unknownTask

end CacheTiers.Command
