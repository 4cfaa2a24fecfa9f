import CacheTiers.Error
import CacheTiers.Json.Basic

namespace CacheTiers.Key

def builderName : String := "<key builder>"

structure Builder (arity : Nat) where
  params : List String
  sound : checkParams params = .ok ()
  length_eq : params.length = arity

def Builder.new (arity : Nat) (params : List String) : Except CacheError (Builder arity) :=
  match sound : checkParams params with
  | .error fault => .error (.config (.keyParams builderName fault))
  | .ok () =>
    if length_eq : params.length = arity then .ok ⟨params, sound, length_eq⟩
    else .error (.config (.arity params arity))

def ofArguments : List Json → Json
  | [argument] => argument
  | arguments => .arr arguments

theorem of_arguments_injective (arguments others : List Json) (arity : arguments.length = others.length)
    (same : ofArguments arguments = ofArguments others) : arguments = others := by
  rcases arguments with _ | ⟨first, _ | ⟨second, rest⟩⟩
  · exact (List.length_eq_zero_iff.mp arity.symm).symm
  · obtain ⟨other, rfl⟩ := List.length_eq_one_iff.mp arity.symm
    exact congrArg (fun argument => [argument]) same
  · rcases others with _ | ⟨other, _ | ⟨another, more⟩⟩
    · simp at arity
    · simp at arity
    · exact Json.arr.inj same

def Builder.build {arity : Nat} (_ : Builder arity) (arguments : List Json) : Json := ofArguments arguments

end CacheTiers.Key
