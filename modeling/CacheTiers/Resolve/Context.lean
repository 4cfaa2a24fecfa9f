import CacheTiers.Metrics.Basic
import CacheTiers.Shape
import CacheTiers.Tier.Basic

namespace CacheTiers

structure Context (W : Type) where
  world : W
  metrics : Metrics

namespace Context

variable {W A : Type}

def record (operation tier : String) (event : Event) (context : Context W) : Context W :=
  { context with metrics := context.metrics.record ⟨operation, tier, event⟩ }

def recordOrigin (operation : String) (context : Context W) : Context W :=
  { context with metrics := context.metrics.recordOrigin operation }

def onWorld (action : W → A × W) (context : Context W) : A × Context W :=
  let (answer, world) := action context.world
  (answer, { context with world })

end Context

def Poll.besides {W A : Type} : Poll W A → Metrics → Poll (Context W) A
  | .ready answer world, metrics => .ready answer ⟨world, metrics⟩
  | .pending rest world, metrics =>
    .pending (fun context => (rest context.world).besides context.metrics) ⟨world, metrics⟩

def Job.onWorld {W A : Type} (job : Job W A) : Job (Context W) A := fun context =>
  (job context.world).besides context.metrics

end CacheTiers
