import CacheTiers.Table
import CacheTiers.Tier.Basic

namespace CacheTiers

-- A planned fault: the error of the next calls, of all of them or of a number of them.
structure Fault where
  error : CacheError
  remaining : Option Nat
deriving DecidableEq, Repr

namespace Fault

def next : Option Fault → Option CacheError × Option Fault
  | none => (none, none)
  | some ⟨error, none⟩ => (some error, some ⟨error, none⟩)
  | some ⟨_, some 0⟩ => (none, none)
  | some ⟨error, some (n + 1)⟩ => (some error, some ⟨error, some n⟩)

end Fault

inductive Manner where
  | usual
  | skip
  | swallow
  | failAfter
deriving DecidableEq, Repr

structure Scripted (K V : Type) where
  name : String
  entries : Table K V
  getFault : Option Fault
  putFault : Option Fault
  getWaits : Nat
  putWaits : Nat
  manner : Manner

namespace Scripted

variable {K V : Type} [DecidableEq K]

def get (key : K) (scripted : Scripted K V) : Lookup V × Scripted K V :=
  match Fault.next scripted.getFault with
  | (some error, later) => (.error error, { scripted with getFault := later })
  | (none, later) => (.ok (scripted.entries.find? key), { scripted with getFault := later })

def put (key : K) (value : V) (scripted : Scripted K V) : Except CacheError Unit × Scripted K V :=
  match Fault.next scripted.putFault with
  | (some error, later) => (.error error, { scripted with putFault := later })
  | (none, later) =>
    (.ok (), { scripted with putFault := later, entries := scripted.entries.insert key value })

def afterOrigin (name : String) (manner : Manner) (told : Lookup V) : Lookup V :=
  match told, manner with
  | .error error, _ => .error error
  | .ok _, .failAfter => .error (.tier name "failed after origin")
  | .ok _, _ => .ok none

end Scripted

end CacheTiers
