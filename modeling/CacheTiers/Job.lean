/-!
Suspendable computations. A job does nothing until it is polled; one poll runs it up to its next
suspension or to its end. The world may be changed by others between two polls. Every job ends after
finitely many polls, so it can be run to its end; it can also be polled a number of times and dropped.
-/
namespace CacheTiers

inductive Poll (W A : Type) where
  | ready (answer : A) (world : W)
  | pending (rest : W → Poll W A) (world : W)

def Job (W A : Type) : Type := W → Poll W A

namespace Poll

variable {W A B : Type}

def bind : Poll W A → (A → Job W B) → Poll W B
  | ready answer world, next => next answer world
  | pending rest world, next => pending (fun later => (rest later).bind next) world

def map (f : A → B) : Poll W A → Poll W B
  | ready answer world => ready (f answer) world
  | pending rest world => pending (fun later => (rest later).map f) world

def finish : Poll W A → A × W
  | ready answer world => (answer, world)
  | pending rest world => (rest world).finish

end Poll

namespace Job

variable {W A B : Type}

protected def pure (answer : A) : Job W A := fun world => .ready answer world

protected def bind (job : Job W A) (next : A → Job W B) : Job W B := fun world => (job world).bind next

instance : Monad (Job W) where
  pure := Job.pure
  bind := Job.bind

def act (action : W → A × W) : Job W A := fun world =>
  let (answer, world) := action world
  .ready answer world

def modify (change : W → W) : Job W Unit := fun world => .ready () (change world)

def after : Nat → (W → A × W) → Job W A
  | 0, action => act action
  | waits + 1, action => fun world => .pending (after waits action) world

def run (job : Job W A) (world : W) : A × W := (job world).finish

-- Polls a job at most `polls` times and drops it if it has not ended by then.
def runFor : Nat → Job W A → W → Option A × W
  | 0, _, world => (none, world)
  | polls + 1, job, world =>
    match job world with
    | .ready answer world => (some answer, world)
    | .pending rest world => runFor polls rest world

end Job

end CacheTiers
