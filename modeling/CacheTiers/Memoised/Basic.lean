import CacheTiers.Key.Builder
import CacheTiers.Manager.Basic

namespace CacheTiers

inductive Body (S R E : Type) where
  | blocking (run : S → List Json → Except (Failure E) R)
  | suspending (waits : Nat) (run : S → List Json → Except (Failure E) R)

structure Memoised (S R E : Type) where
  operation : String
  arguments : List (String × ValueType)
  value : ValueType
  form : ResultForm Json R
  body : Body S R E

def Key.typeOfArguments : List ValueType → ValueType
  | [type] => type
  | types => .tuple types

namespace Memoised

variable {S R E : Type}

def site (function : Memoised S R E) : CallSite where
  operation := function.operation
  params := function.arguments.map Prod.fst
  key := Key.typeOfArguments (function.arguments.map Prod.snd)
  value := function.value

def call (function : Memoised S R E) (receiver : S) (arguments : List Json) (current : Bool)
    (elapsed : Float) (manager : Manager) : Except (Failure E) R × Manager :=
  let key := Key.ofArguments arguments
  match function.body with
  | .blocking run =>
    manager.resolveNamed function.site function.form key
      (fun world => (run receiver arguments, world.note .body)) elapsed
  | .suspending waits run =>
    Manager.await
      (Manager.resolveNamedAsync function.site function.form key current
        (fun world =>
          Job.after waits (fun world => (run receiver arguments, world)) (world.note .body))
        elapsed)
      manager

end Memoised

end CacheTiers
