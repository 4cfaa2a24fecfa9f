import CacheTiers.Text.Blank

namespace CacheTiers.Key

inductive ParamFault where
  | none
  | blank
  | repeated (param : String)
deriving DecidableEq, Repr

def ParamFault.message (operation : String) : ParamFault → String
  | none => s!"Operation '{operation}' has no key parameters; a cache key needs at least one"
  | blank => s!"Operation '{operation}' has an empty key parameter name"
  | repeated param => s!"Operation '{operation}' declares key parameter '{param}' more than once"

-- The first fault at or after the names in `seen`; at one name a blank is noticed before a repetition.
def faultAfter (seen : List String) : List String → Option ParamFault
  | [] => Option.none
  | param :: rest =>
    if Text.isBlank param then some .blank
    else if param ∈ seen then some (.repeated param)
    else faultAfter (param :: seen) rest

def checkParams (params : List String) : Except ParamFault Unit :=
  if params.isEmpty then .error .none
  else match faultAfter [] params with
    | some fault => .error fault
    | Option.none => .ok ()

structure SoundParams (params : List String) : Prop where
  nonempty : params ≠ []
  distinct : params.Nodup
  visible : ∀ param ∈ params, Text.isBlank param = false

end CacheTiers.Key
