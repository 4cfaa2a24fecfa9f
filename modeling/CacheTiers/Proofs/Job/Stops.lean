import CacheTiers.Proofs.Job.Abides

namespace CacheTiers

variable {W A B : Type}

namespace Poll

def Stops (holds : W → Prop) (post : A → W → Prop) : Poll W A → Prop
  | .ready answer world => post answer world
  | .pending rest world => holds world ∧ Stops holds post (rest world)

variable {holds : W → Prop} {post : A → W → Prop}

theorem stops_mono {poll : Poll W A} {more : W → Prop} {weak : A → W → Prop} (stops : poll.Stops holds post)
    (keeps : ∀ world, holds world → more world) (weaker : ∀ answer world, post answer world → weak answer world) :
    poll.Stops more weak := by
  induction poll with
  | ready answer world => exact weaker answer world stops
  | pending rest world ih => exact ⟨keeps world stops.1, ih world stops.2⟩

theorem stops_all {poll : Poll W A} (everywhere : ∀ world, holds world) (always : ∀ answer world, post answer world) :
    poll.Stops holds post := by
  induction poll with
  | ready answer world => exact always answer world
  | pending rest world ih => exact ⟨everywhere world, ih world⟩

theorem stops_and {poll : Poll W A} {also : W → Prop} {last : A → W → Prop} (first : poll.Stops holds post)
    (second : poll.Stops also last) :
    poll.Stops (fun world => holds world ∧ also world) fun answer world => post answer world ∧ last answer world := by
  induction poll with
  | ready answer world => exact ⟨first, second⟩
  | pending rest world ih => exact ⟨⟨first.1, second.1⟩, ih world first.2 second.2⟩

theorem stops_bind {poll : Poll W A} {next : A → Job W B} {last : B → W → Prop} (stops : poll.Stops holds post)
    (continues : ∀ answer world, post answer world → (next answer world).Stops holds last) :
    (poll.bind next).Stops holds last := by
  induction poll with
  | ready answer world => exact continues answer world stops
  | pending rest world ih => exact ⟨stops.1, ih world stops.2⟩

theorem stops_besides {poll : Poll W A} {metrics : Metrics} (stops : poll.Stops holds post) :
    (poll.besides metrics).Stops
    (fun context => holds context.world) fun answer context => post answer context.world := by
  induction poll generalizing metrics with
  | ready answer world => exact stops
  | pending rest world ih => exact ⟨stops.1, ih world stops.2⟩

theorem stops_of_reaches {poll : Poll W A} {first : W} (abides : Abides Eq (Reaches holds) post first poll) :
    poll.Stops holds post := by
  induction poll generalizing first with
  | ready answer world => exact abides.2
  | pending rest world ih => exact ⟨abides.1, ih world (abides.2 world rfl)⟩

theorem stops_finish {poll : Poll W A} (stops : poll.Stops holds post) : post poll.finish.1 poll.finish.2 := by
  induction poll with
  | ready answer world => exact stops
  | pending rest world ih => exact ih world stops.2

end Poll

namespace Job

variable {holds : W → Prop} {post : A → W → Prop}

theorem run_stops {job : Job W A} {world : W} (stops : (job world).Stops holds post) :
    post (job.run world).1 (job.run world).2 := Poll.stops_finish stops

theorem run_for_stops {job : Job W A} {world : W} (polls : Nat) (stops : (job world).Stops holds post)
    (start : holds world) :
    match job.runFor polls world with
    | (some answer, later) => post answer later
    | (none, later) => holds later := by
  induction polls generalizing job world with
  | zero => exact start
  | succ polls ih =>
      rw [runFor]
      generalize job world = poll at stops
      cases poll with
      | ready answer after => exact stops
      | pending rest after => exact ih stops.2 stops.1

end Job

end CacheTiers
