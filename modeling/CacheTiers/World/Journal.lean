namespace CacheTiers

inductive Verb where
  | get
  | put
  | compute
deriving DecidableEq, Repr

def Verb.text : Verb → String
  | get => "get"
  | put => "put"
  | compute => "compute"

inductive Entry where
  | called (verb : Verb) (tier : String)
  | started (verb : Verb) (tier : String)
  | ended (verb : Verb) (tier : String)
  | origin
  | originStarted
  | originEnded
  | body
  | spawned
  | returned
  | cancelled
deriving DecidableEq, Repr

def Entry.text : Entry → String
  | called verb tier => s!"{verb.text} {tier}"
  | started verb tier => s!"{verb.text} {tier} start"
  | ended verb tier => s!"{verb.text} {tier} end"
  | origin => "origin"
  | originStarted => "origin start"
  | originEnded => "origin end"
  | body => "body"
  | spawned => "spawned"
  | returned => "return"
  | cancelled => "cancelled"

end CacheTiers
