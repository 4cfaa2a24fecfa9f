import CacheTiers.Config.Basic
import CacheTiers.Error
import CacheTiers.Toml.Reader
import CacheTiers.Words

namespace CacheTiers.Config

open Toml (Value Entries)

inductive Source where
  | named (entries : Entries)
  | listed (items : List Value)
deriving Repr

def source? : Value → Option Source
  | .table _ entries => some (.named entries)
  | .array _ items => some (.listed items)
  | .moment => some (.named [])
  | .str _ | .int _ | .float | .bool _ => none

def Source.field? (source : Source) (name : String) (place : Nat) : Option Value :=
  match source with
  | .named entries => lookup name entries
  | .listed items => items[place]?

def required {A : Type} (read : Value → Option A) (field : Option Value) : Option A := field.bind read

def withDefault {A : Type} (read : Value → Option A) (default : A) : Option Value → Option A
  | none => some default
  | some value => read value

def optional {A : Type} (read : Value → Option A) : Option Value → Option (Option A)
  | none => some none
  | some value => (read value).map some

def bool? : Value → Option Bool
  | .bool value => some value
  | _ => none

def text? : Value → Option String
  | .str text => some text
  | _ => none

def natural? (bits : Nat) : Value → Option Nat
  | .int value => if isWord bits value then some value.toNat else none
  | _ => none

def texts? : Value → Option (List String)
  | .array _ items => items.mapM text?
  | _ => none

def isEmpty : Value → Bool
  | .table _ entries => entries.isEmpty
  | .array _ items => items.isEmpty
  | .str _ | .int _ | .float | .bool _ | .moment => false

-- A shape is its word, or a table that has the word as its only name, with nothing in it.
def shape? : Value → Option Shape
  | .str text => Shape.ofText? text
  | .table _ [(name, content)] => if isEmpty content then Shape.ofText? name else none
  | _ => none

def table? {A : Type} (read : Value → Option A) : Value → Option (Table String A)
  | .table _ entries =>
    (entries.mapM fun entry => (read entry.2).map fun thing => (entry.1, thing)).map Table.ofList
  | _ => none

def defaultCapacity : Nat := 10000

def defaultAddress : String := "redis://127.0.0.1:6379"

def defaultConnectionTimeout : Nat := 5000

def defaultCommandTimeout : Nat := 3000

def memory? (source : Source) : Option MemorySetup := do
  let capacity ← withDefault (natural? 64) defaultCapacity (source.field? "max_capacity" 0)
  let ttl ← optional (natural? 64) (source.field? "ttl" 1)
  return ⟨capacity, ttl⟩

def redis? (source : Source) : Option RedisSetup := do
  let address ← withDefault text? defaultAddress (source.field? "connection_string" 0)
  let keyPrefix ← optional text? (source.field? "key_prefix" 1)
  let ttl ← optional (natural? 64) (source.field? "ttl" 2)
  let connectionTimeout ←
    withDefault (natural? 64) defaultConnectionTimeout (source.field? "connection_timeout_ms" 3)
  let commandTimeout ←
    withDefault (natural? 64) defaultCommandTimeout (source.field? "command_timeout_ms" 4)
  return ⟨address, keyPrefix, ttl, connectionTimeout, commandTimeout⟩

def Source.count : Source → Nat
  | named _ => 0
  | listed items => items.length

def tierOf? (kind : String) (source : Source) : Option TierSetup :=
  match kind with
  | "memory" => if source.count ≤ 2 then (memory? source).map .memory else none
  | "redis" => if source.count ≤ 5 then (redis? source).map .redis else none
  | _ => none

def tier? : Value → Option TierSetup
  | .table _ entries => do
    let kind ← required text? (lookup "kind" entries)
    tierOf? kind (.named entries)
  | .array _ (first :: items) => do
    let kind ← text? first
    tierOf? kind (.listed items)
  | _ => none

def operation? (value : Value) : Option OperationSetup := do
  let source ← source? value
  let tiers ← required texts? (source.field? "tiers" 0)
  let key ← required texts? (source.field? "key" 1)
  let shape ← withDefault shape? .plain (source.field? "shape" 2)
  return ⟨tiers, key, shape⟩

def defaultDefaultTtl : Nat := 300

def global? (value : Value) : Option (Nat × Bool) := do
  let source ← source? value
  let ttl ← withDefault (natural? 64) defaultDefaultTtl (source.field? "default_ttl" 0)
  let metrics ← withDefault bool? true (source.field? "enable_metrics" 1)
  return (ttl, metrics)

def ofEntries? (entries : Entries) : Option Config := do
  let version ← optional (natural? 32) (lookup "config_version" entries)
  let (defaultTtl, enableMetrics) ←
    withDefault global? (defaultDefaultTtl, true) (lookup "global" entries)
  let tiers ← withDefault (table? tier?) .empty (lookup "tiers" entries)
  let operations ← withDefault (table? operation?) .empty (lookup "operations" entries)
  return ⟨version, defaultTtl, enableMetrics, tiers, operations⟩

def parse (text : String) : Except CacheError Config :=
  match (Toml.read? text.toList).bind ofEntries? with
  | some config => .ok config
  | none => .error (.toml "the text is no configuration")

def parseShape (text : String) : Except CacheError Shape :=
  match (Toml.read? text.toList).bind fun entries => required shape? (lookup "shape" entries) with
  | some shape => .ok shape
  | none => .error (.toml "the text declares no shape")

end CacheTiers.Config
