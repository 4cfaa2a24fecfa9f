import CacheTiers.Job

/-!
Groups of jobs that are awaited together. The jobs of a group take turns: in each round every job that
has not ended is polled once, in list order. One poll of the group takes many turns. A small group hands
control back at the end of each round. A large one hands it back once two jobs in a row have suspended,
wherever in a round that is, and otherwise goes on into the next round. When a group hands control back
matters to a caller that polls it a limited number of times, and to nobody else: run to its end, it does
the same either way.
-/
namespace CacheTiers

inductive Turns (W A : Type) where
  | done (answer : A) (world : W)
  -- A job was polled; `ended` where it has its answer now.
  | turn (ended : Bool) (rest : W → Turns W A) (world : W)
  | roundEnd (rest : W → Turns W A) (world : W)

namespace Turns

variable {W A B : Type}

def map (f : A → B) : Turns W A → Turns W B
  | done answer world => done (f answer) world
  | turn ended rest world => turn ended (fun later => (rest later).map f) world
  | roundEnd rest world => roundEnd (fun later => (rest later).map f) world

def round : Turns W B → ((W → Turns W B) → W → Turns W A) → Turns W A
  | done answer world, next => next (fun later => done answer later) world
  | turn ended rest world, next => turn ended (fun later => (rest later).round next) world
  | roundEnd rest world, next => next rest world

def before : Poll W A → (W → Turns W B) → Turns W (A × B)
  | .ready answer world, others =>
    turn true (fun later => (others later).map fun rest => (answer, rest)) world
  | .pending rest world, others =>
    turn false (fun later => (others later).round fun others world =>
      roundEnd (fun later => before (rest later) others) world) world

def ofJobs : List (Job W A) → W → Turns W (List A)
  | [], world => done [] world
  | job :: jobs, world => (before (job world) (ofJobs jobs)).map fun (first, rest) => first :: rest

def finish : Turns W A → A × W
  | done answer world => (answer, world)
  | turn _ rest world | roundEnd rest world => (rest world).finish

def byRound : Turns W A → Poll W A
  | done answer world => .ready answer world
  | turn _ rest world => (rest world).byRound
  | roundEnd rest world => .pending (fun later => (rest later).byRound) world

-- Hands control back when two jobs in a row have suspended, or the only one that is left has. Of the jobs, `left`
-- have not ended, and `suspended` tells whether the turn before ended with a suspension.
def bySuspension (left : Nat) (suspended : Bool) : Turns W A → Poll W A
  | done answer world => .ready answer world
  | roundEnd rest world => (rest world).bySuspension left suspended
  | turn true rest world => (rest world).bySuspension (left - 1) false
  | turn false rest world =>
    if suspended || left = 1 then .pending (fun later => (rest later).bySuspension left false) world
    else (rest world).bySuspension left true

theorem finish_by_round (turns : Turns W A) : turns.byRound.finish = turns.finish := by
  induction turns with
  | done answer world => rfl
  | turn ended rest world ih => exact ih world
  | roundEnd rest world ih => exact ih world

theorem finish_by_suspension (turns : Turns W A) (left : Nat) (suspended : Bool) :
    (turns.bySuspension left suspended).finish = turns.finish := by
  induction turns generalizing left suspended with
  | done answer world => rfl
  | roundEnd rest world ih => exact ih world left suspended
  | turn ended rest world ih =>
    cases ended with
    | true => exact ih world (left - 1) false
    | false =>
      rw [bySuspension]
      split
      · exact ih world left false
      · exact ih world left true

end Turns

namespace Job

variable {W A : Type}

def smallGroup : Nat := 30

def all (jobs : List (Job W A)) : Job W (List A) := fun world =>
  let turns := Turns.ofJobs jobs world
  if jobs.length ≤ smallGroup then turns.byRound else turns.bySuspension jobs.length false

theorem run_all (jobs : List (Job W A)) (world : W) :
    (all jobs).run world = (Turns.ofJobs jobs world).finish := by
  simp only [run, all]
  split
  · exact Turns.finish_by_round _
  · exact Turns.finish_by_suspension _ _ _

end Job

end CacheTiers
