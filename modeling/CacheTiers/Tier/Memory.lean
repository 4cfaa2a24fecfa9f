import CacheTiers.Table
import CacheTiers.Tier.Basic

namespace CacheTiers

structure Memory (K V : Type) where
  name : String
  capacity : Nat
  ttl : Option Nat
  entries : Table K V

namespace Memory

variable {K V : Type} [DecidableEq K]

def new (name : String) (capacity : Nat) (ttl : Option Nat) : Memory K V := ⟨name, capacity, ttl, .empty⟩

def keeps (memory : Memory K V) : Bool := memory.ttl ≠ some 0

def find? (memory : Memory K V) (key : K) : Option V :=
  if memory.keeps then memory.entries.find? key else none

def insert (memory : Memory K V) (key : K) (value : V) : Memory K V :=
  if memory.keeps then { memory with entries := memory.entries.insert key value } else memory

def contains (memory : Memory K V) (key : K) : Bool := (memory.find? key).isSome

def invalidate (memory : Memory K V) (key : K) : Memory K V :=
  { memory with entries := memory.entries.erase key }

def clear (memory : Memory K V) : Memory K V := { memory with entries := .empty }

def get (key : K) (memory : Memory K V) : Lookup V × Memory K V := (.ok (memory.find? key), memory)

def put (key : K) (value : V) (memory : Memory K V) : Except CacheError Unit × Memory K V :=
  (.ok (), memory.insert key value)

def enter (key : K) (told : Lookup V) (memory : Memory K V) : Lookup V × Memory K V :=
  match told with
  | .error error => (.error error, memory)
  | .ok none => (.ok none, memory)
  | .ok (some value) => (.ok (some value), memory.insert key value)

def computeIfAbsent (key : K) (memory : Memory K V) : Consult (Memory K V) V :=
  match memory.find? key with
  | some value => .answer (.ok (some value)) memory
  | none => .ask (enter key) memory

def tier (name : String) : Tier (Memory K V) K V where
  name := name
  get := get
  put := put
  computeIfAbsent := computeIfAbsent
  getAsync := fun key => Job.act (get key)
  putAsync := fun key value => Job.act (put key value)

end Memory

end CacheTiers
