import CacheTiers.Manager.Basic
import CacheTiers.Proofs.Job.Run

namespace CacheTiers

theorem Poll.finish_with_registry {A : Type} (poll : Poll (Context World) A) (registry : Registry) :
    (poll.withRegistry registry).finish = (poll.finish.1, ⟨registry, poll.finish.2⟩) := by
  induction poll generalizing registry with
  | ready answer context => rfl
  | pending rest context ih => exact ih context registry

theorem Job.run_on_context {A : Type} (job : Job (Context World) A) (manager : Manager) :
    job.onContext.run manager = ((job.run manager.context).1, ⟨manager.registry, (job.run manager.context).2⟩) :=
  Poll.finish_with_registry (job manager.context) manager.registry

namespace Manager

variable {R E : Type} (site : CallSite) (form : ResultForm Json R) (key : Json) (current : Bool)
  (origin : Job World (Except (Failure E) R)) (elapsed : Float) (manager after : Manager)

theorem resolve_found (operation : Operation TierRef)
    (found : manager.operationAt site form.shape = (.ok operation, after)) :
    resolveNamedAsync site form key current origin elapsed manager =
      ((operation.map World.tier).resolveAsync form key current origin elapsed).onContext after := by
  simp only [resolveNamedAsync, bind, Job.bind, Job.act, found, Poll.bind]

theorem resolve_refused (error : CacheError) (refused : manager.operationAt site form.shape = (.error error, after)) :
    resolveNamedAsync site form key current origin elapsed manager = .ready (.only (.error (.cache error))) after := by
  simp only [resolveNamedAsync, bind, Job.bind, Job.act, refused, Poll.bind]
  rfl

theorem await_found (operation : Operation TierRef)
    (found : manager.operationAt site form.shape = (.ok operation, after)) :
    await (resolveNamedAsync site form key current origin elapsed) manager =
      await ((operation.map World.tier).resolveAsync form key current origin elapsed).onContext after := by
  simp only [await, Job.run, resolve_found site form key current origin elapsed manager after operation found]

theorem await_refused (error : CacheError) (refused : manager.operationAt site form.shape = (.error error, after)) :
    await (resolveNamedAsync site form key current origin elapsed) manager =
      (.error (.cache error), ⟨after.registry, ⟨after.context.world.note .returned, after.context.metrics⟩⟩) := by
  simp only [await, Job.run, resolve_refused site form key current origin elapsed manager after error refused]
  rfl

end Manager

end CacheTiers
