import CacheTiers.Config.File
import CacheTiers.Manager.Registry

namespace CacheTiers

structure Manager where
  registry : Registry
  context : Context World

structure CallSite where
  operation : String
  params : List String
  key : ValueType
  value : ValueType
deriving DecidableEq, Repr

def CallSite.signature (site : CallSite) (shape : Shape) : Signature := ⟨site.key, site.value, shape⟩

namespace Manager

def empty : Manager := ⟨.empty, ⟨.empty, .empty⟩⟩

instance : Inhabited Manager := ⟨empty⟩

def reset (manager : Manager) : Manager := { manager with registry := .empty }

def init (config : Config) (manager : Manager) : Except CacheError Unit × Manager :=
  match config.check with
  | .error violation => (.error (.config (.refused violation)), manager)
  | .ok () => (.ok (), {
      registry := .ofConfig config
      context := { manager.context with
        metrics := manager.context.metrics.setEnabled config.enableMetrics } })

def initRead (config : Except CacheError Config) (manager : Manager) : Except CacheError Unit × Manager :=
  match config with
  | .error error => (.error error, manager)
  | .ok config => manager.init config

def initFromFile (content : Except FileFault (List UInt8)) (manager : Manager) :
    Except CacheError Unit × Manager :=
  manager.initRead (Config.ofFile content)

def register (stand : Stand) (ref : TierRef) (manager : Manager) : Except CacheError Unit × Manager :=
  match manager.registry.register stand ref with
  | .error error => (.error error, manager)
  | .ok registry => (.ok (), { manager with registry })

def operation (name : String) (signature : Signature) (manager : Manager) :
    Except CacheError (Operation TierRef) × Manager :=
  match manager.registry.built.find? (name, signature) with
  | some operation => (.ok operation, manager)
  | none =>
    match manager.registry.materialise name signature manager.context.world with
    | .error error => (.error error, manager)
    | .ok (operation, world) => (.ok operation, {
        registry := { manager.registry with
          built := manager.registry.built.insert (name, signature) operation }
        context := { manager.context with world } })

def checkCallSite (operation : Operation TierRef) (params : List String) : Except CacheError Unit :=
  if operation.keyParams = params then .ok ()
  else .error (.config (.callSite operation.name operation.keyParams params))

def operationAt (site : CallSite) (shape : Shape) (manager : Manager) :
    Except CacheError (Operation TierRef) × Manager :=
  match manager.operation site.operation (site.signature shape) with
  | (.error error, manager) => (.error error, manager)
  | (.ok operation, manager) =>
    (match checkCallSite operation site.params with
      | .error error => .error error
      | .ok () => .ok operation, manager)

def onContext {A : Type} (action : Context World → A × Context World) (manager : Manager) : A × Manager :=
  let (answer, context) := action manager.context
  (answer, { manager with context })

variable {R E : Type}

def resolveNamed (site : CallSite) (form : ResultForm Json R) (key : Json)
    (origin : World → Except (Failure E) R × World) (elapsed : Float) (manager : Manager) :
    Except (Failure E) R × Manager :=
  match manager.operationAt site form.shape with
  | (.error error, manager) => (.error (.cache error), manager)
  | (.ok operation, manager) =>
    manager.onContext ((operation.map World.tier).resolve form key origin elapsed)

end Manager

def Poll.withRegistry {A : Type} : Poll (Context World) A → Registry → Poll Manager A
  | .ready answer context, registry => .ready answer ⟨registry, context⟩
  | .pending rest context, registry =>
    .pending (fun manager => (rest manager.context).withRegistry manager.registry) ⟨registry, context⟩

def Job.onContext {A : Type} (job : Job (Context World) A) : Job Manager A := fun manager =>
  (job manager.context).withRegistry manager.registry

namespace Manager

variable {R E : Type}

abbrev Outcome (R E : Type) : Type := Resolve.Outcome World Json Json R E

-- `current` says whether the caller runs on a runtime.
def resolveNamedAsync (site : CallSite) (form : ResultForm Json R) (key : Json) (current : Bool)
    (origin : Job World (Except (Failure E) R)) (elapsed : Float) : Job Manager (Outcome R E) := do
  match ← Job.act (operationAt site form.shape) with
  | .error error => return .only (.error (.cache error))
  | .ok operation => ((operation.map World.tier).resolveAsync form key current origin elapsed).onContext

-- Runs a suspending resolution to its end, enters its return in the journal, and then runs the work that it
-- dispatched.
def await (job : Job Manager (Outcome R E)) (manager : Manager) : Except (Failure E) R × Manager :=
  let (outcome, manager) := job.run manager
  let context := { manager.context with world := manager.context.world.note .returned }
  (outcome.result, { manager with context := Resolve.settleDispatched outcome.dispatched context })

end Manager

end CacheTiers
