import CacheTiers.Resolve.Context

namespace CacheTiers

variable {W A B : Type}

theorem Poll.finish_bind (poll : Poll W A) (next : A → Job W B) :
    (poll.bind next).finish = (next poll.finish.1).run poll.finish.2 := by
  induction poll with
  | ready answer world => rfl
  | pending rest world ih => exact ih world

theorem Poll.finish_besides (poll : Poll W A) (metrics : Metrics) :
    (poll.besides metrics).finish = (poll.finish.1, ⟨poll.finish.2, metrics⟩) := by
  induction poll generalizing metrics with
  | ready answer world => rfl
  | pending rest world ih => exact ih world metrics

namespace Job

theorem run_bind (job : Job W A) (next : A → Job W B) (world : W) :
    (job >>= next).run world = (next (job.run world).1).run (job.run world).2 :=
  Poll.finish_bind (job world) next

theorem run_pure (answer : A) (world : W) : (pure answer : Job W A).run world = (answer, world) := rfl

theorem run_modify (change : W → W) (world : W) : (modify change).run world = ((), change world) := rfl

theorem run_act (action : W → A × W) (world : W) : (act action).run world = action world := rfl

theorem run_after (waits : Nat) (action : W → A × W) (world : W) : (after waits action).run world = action world := by
  induction waits with
  | zero => rfl
  | succ waits ih => exact ih

theorem run_on_world (job : Job W A) (context : Context W) :
    job.onWorld.run context = ((job.run context.world).1, ⟨(job.run context.world).2, context.metrics⟩) :=
  Poll.finish_besides (job context.world) context.metrics

def runUntil (polls : Option Nat) (job : Job W A) (world : W) : Option A × W :=
  match polls with
  | none => (some (job.run world).1, (job.run world).2)
  | some polls => job.runFor polls world

theorem run_of_run_for (polls : Nat) (job : Job W A) (world later : W) (answer : A)
    (ended : job.runFor polls world = (some answer, later)) : job.run world = (answer, later) := by
  induction polls generalizing job world with
  | zero => cases ended
  | succ polls ih =>
      rw [runFor] at ended
      rw [run]
      cases polled : job world with
      | ready given after =>
          rw [polled] at ended
          cases ended
          rfl
      | pending rest after =>
          rw [polled] at ended
          exact ih rest after ended

theorem run_of_run_until (polls : Option Nat) (job : Job W A) (world later : W) (answer : A)
    (ended : job.runUntil polls world = (some answer, later)) : job.run world = (answer, later) := by
  cases polls with
  | none =>
      cases ended
      rfl
  | some polls => exact run_of_run_for polls job world later answer ended

theorem run_for_then (job : Job W A) (change : W → W) (polls : Nat) (world : W) :
    (job >>= fun answer => modify change >>= fun _ => pure answer).runFor polls world =
      match job.runFor polls world with
      | (some answer, later) => (some answer, change later)
      | (none, later) => (none, later) := by
  induction polls generalizing job world with
  | zero => rfl
  | succ polls ih =>
      have begun : (job >>= fun answer => modify change >>= fun _ => pure answer) world =
        (job world).bind fun answer => modify change >>= fun _ => pure answer := rfl
      rw [runFor, runFor, begun]
      cases job world with
      | ready answer later => rfl
      | pending rest later => exact ih rest later

end Job

end CacheTiers
