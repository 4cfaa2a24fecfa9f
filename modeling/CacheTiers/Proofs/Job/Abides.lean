import CacheTiers.Job.Group
import CacheTiers.Resolve.Context

namespace CacheTiers

variable {W A B : Type}

structure Composes (steps : W → W → Prop) : Prop where
  refl : ∀ world, steps world world
  trans : ∀ first second third, steps first second → steps second third → steps first third

theorem composes_eq : Composes (Eq : W → W → Prop) := ⟨fun _ => rfl, fun _ _ _ => Eq.trans⟩

theorem composes_any : Composes (fun _ _ : W => True) := ⟨fun _ => trivial, fun _ _ _ _ _ => trivial⟩

theorem composes_image {C : Type} {steps : W → W → Prop} (view : C → W) (composes : Composes steps) :
    Composes (InvImage steps view) :=
  ⟨fun world => composes.refl (view world), fun a b c => composes.trans (view a) (view b) (view c)⟩

def Uncounted (steps : W → W → Prop) (before after : Context W) : Prop :=
  steps before.world after.world ∧ after.metrics = before.metrics

theorem composes_uncounted {steps : W → W → Prop} (composes : Composes steps) : Composes (Uncounted steps) :=
  ⟨fun context => ⟨composes.refl context.world, rfl⟩,
    fun _ _ _ first second => ⟨composes.trans _ _ _ first.1 second.1, second.2.trans first.2⟩⟩

-- An invariant is the guarantee that asks nothing of where a step begins.
def Reaches (holds : W → Prop) (_ after : W) : Prop := holds after

theorem reaches_trans {holds : W → Prop} (first second third : W) (_ : Reaches holds first second)
    (last : Reaches holds second third) : Reaches holds first third := last

namespace Poll

def Abides (rely guar : W → W → Prop) (post : A → W → Prop) : W → Poll W A → Prop
  | first, .ready answer world => guar first world ∧ post answer world
  | first, .pending rest world =>
    guar first world ∧ ∀ later, rely world later → Abides rely guar post later (rest later)

variable {rely guar : W → W → Prop} {post : A → W → Prop}

theorem abides_mono {poll : Poll W A} {first : W} {narrow wide : W → W → Prop} {weak : A → W → Prop}
    (abides : Abides rely guar post first poll)
    (relies : ∀ before after, narrow before after → rely before after)
    (keeps : ∀ before after, guar before after → wide before after)
    (weaker : ∀ answer world, post answer world → weak answer world) :
    Abides narrow wide weak first poll := by
  induction poll generalizing first with
  | ready answer world => exact ⟨keeps first world abides.1, weaker answer world abides.2⟩
  | pending rest world ih =>
      refine ⟨keeps first world abides.1, ?_⟩
      intro later other
      exact ih later (abides.2 later (relies world later other))

theorem abides_after_step {poll : Poll W A} {first second : W}
    (trans : ∀ a b c, guar a b → guar b c → guar a c) (step : guar first second)
    (abides : Abides rely guar post second poll) : Abides rely guar post first poll := by
  cases poll with
  | ready answer world => exact ⟨trans first second world step abides.1, abides.2⟩
  | pending rest world => exact ⟨trans first second world step abides.1, abides.2⟩

theorem abides_bind {poll : Poll W A} {next : A → Job W B} {first : W} {last : B → W → Prop}
    (trans : ∀ a b c, guar a b → guar b c → guar a c) (abides : Abides rely guar post first poll)
    (continues : ∀ answer world, post answer world → Abides rely guar last world (next answer world)) :
    Abides rely guar last first (poll.bind next) := by
  induction poll generalizing first with
  | ready answer world =>
      exact abides_after_step trans abides.1 (continues answer world abides.2)
  | pending rest world ih =>
      exact ⟨abides.1, fun later other => ih later (abides.2 later other)⟩

theorem abides_reaches {poll : Poll W A} {first : W} {holds : W → Prop} (abides : Abides rely guar post first poll)
    (keeps : ∀ before after, guar before after → holds before → holds after)
    (undisturbed : ∀ before after, rely before after → holds before → holds after) (start : holds first) :
    Abides rely (Reaches holds) (fun answer world => post answer world ∧ holds world) first poll := by
  induction poll generalizing first with
  | ready answer world =>
      have reached := keeps first world abides.1 start
      exact ⟨reached, abides.2, reached⟩
  | pending rest world ih =>
      have reached := keeps first world abides.1 start
      exact ⟨reached, fun later other => ih later (abides.2 later other) (undisturbed world later other reached)⟩

-- Run to its end a job is alone: what it relies on need only hold of a world that stays as it is.
theorem abides_finish {poll : Poll W A} {first : W} (refl : ∀ world, rely world world)
    (trans : ∀ a b c, guar a b → guar b c → guar a c) (abides : Abides rely guar post first poll) :
    guar first poll.finish.2 ∧ post poll.finish.1 poll.finish.2 := by
  induction poll generalizing first with
  | ready answer world => exact abides
  | pending rest world ih =>
      have ended := ih world (abides.2 world (refl world))
      exact ⟨trans first world _ abides.1 ended.1, ended.2⟩

theorem abides_besides {poll : Poll W A} {first : W} {metrics : Metrics}
    (abides : Abides rely guar post first poll) :
    Abides (InvImage rely Context.world) (Uncounted guar)
      (fun answer context => post answer context.world) ⟨first, metrics⟩ (poll.besides metrics) := by
  induction poll generalizing first metrics with
  | ready answer world => exact ⟨⟨abides.1, rfl⟩, abides.2⟩
  | pending rest world ih =>
      refine ⟨⟨abides.1, rfl⟩, ?_⟩
      intro later other
      exact ih later.world (abides.2 later.world other)

end Poll

namespace Job

variable {rely guar : W → W → Prop} {post : A → W → Prop}

theorem after_abides {waits : Nat} {action : W → A × W} {first : W} (relies : Composes rely)
    (still : ∀ world, guar world world)
    (acts : ∀ world, rely first world → guar world (action world).2 ∧ post (action world).1 (action world).2) :
    Poll.Abides rely guar post first (after waits action first) := by
  induction waits generalizing first with
  | zero => exact acts first (relies.refl first)
  | succ waits ih =>
      refine ⟨still first, ?_⟩
      intro later other
      exact ih (fun world further => acts world (relies.trans first later world other further))

theorem run_abides {job : Job W A} {first : W} (refl : ∀ world, rely world world)
    (trans : ∀ a b c, guar a b → guar b c → guar a c) (abides : Poll.Abides rely guar post first (job first)) :
    guar first (job.run first).2 ∧ post (job.run first).1 (job.run first).2 :=
  Poll.abides_finish refl trans abides

theorem run_for_reaches {job : Job W A} {first : W} {holds : W → Prop} (polls : Nat)
    (refl : ∀ world, rely world world) (abides : Poll.Abides rely (Reaches holds) post first (job first))
    (start : holds first) :
    holds (job.runFor polls first).2 ∧
      ∀ answer, (job.runFor polls first).1 = some answer → post answer (job.runFor polls first).2 := by
  induction polls generalizing job first with
  | zero => exact ⟨start, fun answer impossible => by simp [runFor] at impossible⟩
  | succ polls ih =>
      simp only [runFor]
      generalize job first = poll at abides
      cases poll with
      | ready answer world =>
          refine ⟨abides.1, ?_⟩
          intro given same
          cases same
          exact abides.2
      | pending rest world => exact ih (abides.2 world (refl world)) abides.1

theorem on_world_uncounted {job : Job W A} {context : Context W}
    (abides : Poll.Abides rely guar post context.world (job context.world)) :
    Poll.Abides (InvImage rely Context.world) (Uncounted guar)
      (fun answer context => post answer context.world) context (job.onWorld context) :=
  Poll.abides_besides abides

theorem on_world_abides {job : Job W A} {context : Context W}
    (abides : Poll.Abides rely guar post context.world (job context.world)) :
    Poll.Abides (InvImage rely Context.world) (InvImage guar Context.world)
      (fun answer context => post answer context.world) context (job.onWorld context) :=
  Poll.abides_mono (on_world_uncounted abides) (fun _ _ step => step) (fun _ _ step => step.1) fun _ _ held => held

end Job

namespace Turns

def Abides (rely guar : W → W → Prop) (post : A → W → Prop) : W → Turns W A → Prop
  | first, .done answer world => guar first world ∧ post answer world
  | first, .turn _ rest world =>
    guar first world ∧ ∀ later, rely world later → Abides rely guar post later (rest later)
  | first, .roundEnd rest world =>
    guar first world ∧ ∀ later, rely world later → Abides rely guar post later (rest later)

section One

variable {rely guar : W → W → Prop} {post : A → W → Prop}

theorem abides_mono {turns : Turns W A} {first : W} {narrow wide : W → W → Prop} {weak : A → W → Prop}
    (abides : Abides rely guar post first turns)
    (relies : ∀ before after, narrow before after → rely before after)
    (keeps : ∀ before after, guar before after → wide before after)
    (weaker : ∀ answer world, post answer world → weak answer world) :
    Abides narrow wide weak first turns := by
  induction turns generalizing first with
  | done answer world => exact ⟨keeps first world abides.1, weaker answer world abides.2⟩
  | turn ended rest world ih =>
      exact ⟨keeps first world abides.1, fun later other => ih later (abides.2 later (relies world later other))⟩
  | roundEnd rest world ih =>
      exact ⟨keeps first world abides.1, fun later other => ih later (abides.2 later (relies world later other))⟩

theorem abides_map {turns : Turns W A} {f : A → B} {first : W} {last : B → W → Prop}
    (abides : Abides rely guar post first turns)
    (mapped : ∀ answer world, post answer world → last (f answer) world) :
    Abides rely guar last first (turns.map f) := by
  induction turns generalizing first with
  | done answer world => exact ⟨abides.1, mapped answer world abides.2⟩
  | turn ended rest world ih => exact ⟨abides.1, fun later other => ih later (abides.2 later other)⟩
  | roundEnd rest world ih => exact ⟨abides.1, fun later other => ih later (abides.2 later other)⟩

-- Between the turns that one poll takes nobody else acts, so the poll is one step of the guarantee.
theorem abides_by_round {turns : Turns W A} {first : W} (refl : ∀ world, rely world world)
    (trans : ∀ a b c, guar a b → guar b c → guar a c) (abides : Abides rely guar post first turns) :
    Poll.Abides rely guar post first turns.byRound := by
  induction turns generalizing first with
  | done answer world => exact abides
  | turn ended rest world ih =>
      exact Poll.abides_after_step trans abides.1 (ih world (abides.2 world (refl world)))
  | roundEnd rest world ih => exact ⟨abides.1, fun later other => ih later (abides.2 later other)⟩

theorem abides_by_suspension {turns : Turns W A} {first : W} (left : Nat) (suspended : Bool)
    (refl : ∀ world, rely world world) (trans : ∀ a b c, guar a b → guar b c → guar a c)
    (abides : Abides rely guar post first turns) :
    Poll.Abides rely guar post first (turns.bySuspension left suspended) := by
  induction turns generalizing first left suspended with
  | done answer world => exact abides
  | roundEnd rest world ih =>
      exact Poll.abides_after_step trans abides.1 (ih world left suspended (abides.2 world (refl world)))
  | turn ended rest world ih =>
      have goesOn (left : Nat) (suspended : Bool) :
          Poll.Abides rely guar post first ((rest world).bySuspension left suspended) :=
        Poll.abides_after_step trans abides.1 (ih world left suspended (abides.2 world (refl world)))
      cases ended with
      | true => exact goesOn (left - 1) false
      | false =>
          rw [bySuspension]
          split
          · exact ⟨abides.1, fun later other => ih later left false (abides.2 later other)⟩
          · exact goesOn left true

end One

structure Compatible (rely₁ guar₁ : W → W → Prop) (post₁ : A → W → Prop) (rely₂ guar₂ : W → W → Prop)
    (post₂ : B → W → Prop) (guar : W → W → Prop) : Prop where
  relies₁ : Composes rely₁
  relies₂ : Composes rely₂
  still₂ : ∀ world, guar₂ world world
  yields₁ : ∀ before after, guar₁ before after → rely₂ before after ∧ guar before after
  yields₂ : ∀ before after, guar₂ before after → rely₁ before after ∧ guar before after
  stable₁ : ∀ answer before after, post₁ answer before → rely₁ before after → post₁ answer after
  stable₂ : ∀ answer before after, post₂ answer before → rely₂ before after → post₂ answer after

section Two

variable {rely₁ rely₂ guar₁ guar₂ guar : W → W → Prop} {post₁ : A → W → Prop} {post₂ : B → W → Prop}

def bothRely (rely₁ rely₂ : W → W → Prop) (before after : W) : Prop := rely₁ before after ∧ rely₂ before after

def bothAnswered (post₁ : A → W → Prop) (post₂ : B → W → Prop) (answers : A × B) (world : W) : Prop :=
  post₁ answers.1 world ∧ post₂ answers.2 world

theorem abides_answered {turns : Turns W B} {answer : A} {first : W}
    (compatible : Compatible rely₁ guar₁ post₁ rely₂ guar₂ post₂ guar) (answered : post₁ answer first)
    (abides : Abides rely₂ guar₂ post₂ first turns) :
    Abides (bothRely rely₁ rely₂) guar (bothAnswered post₁ post₂) first (turns.map fun rest => (answer, rest)) := by
  induction turns generalizing first with
  | done given world =>
      obtain ⟨relied, step⟩ := compatible.yields₂ first world abides.1
      exact ⟨step, compatible.stable₁ answer first world answered relied, abides.2⟩
  | turn ended rest world ih =>
      obtain ⟨relied, step⟩ := compatible.yields₂ first world abides.1
      refine ⟨step, ?_⟩
      intro later other
      have held := compatible.stable₁ answer first world answered relied
      exact ih later (compatible.stable₁ answer world later held other.1) (abides.2 later other.2)
  | roundEnd rest world ih =>
      obtain ⟨relied, step⟩ := compatible.yields₂ first world abides.1
      refine ⟨step, ?_⟩
      intro later other
      have held := compatible.stable₁ answer first world answered relied
      exact ih later (compatible.stable₁ answer world later held other.1) (abides.2 later other.2)

-- The first job has been suspended at `paused`. The others take their turns up to the end of the round,
-- and `resumes` is what is known of the first job from then on.
theorem abides_round {turns : Turns W B} {rest : W → Poll W A} {paused first : W}
    (compatible : Compatible rely₁ guar₁ post₁ rely₂ guar₂ post₂ guar)
    (resumes : ∀ later, rely₁ paused later → ∀ others : W → Turns W B,
      (∀ world, rely₂ later world → Abides rely₂ guar₂ post₂ world (others world)) →
      Abides (bothRely rely₁ rely₂) guar (bothAnswered post₁ post₂) later (before (rest later) others))
    (relied : rely₁ paused first) (abides : Abides rely₂ guar₂ post₂ first turns) :
    Abides (bothRely rely₁ rely₂) guar (bothAnswered post₁ post₂) first
      (turns.round fun others world => roundEnd (fun later => before (rest later) others) world) := by
  have onward (world later : W) (step : guar₂ first world) (other : bothRely rely₁ rely₂ world later) :
      rely₁ paused later := by
    have here := compatible.relies₁.trans paused first world relied (compatible.yields₂ first world step).1
    exact compatible.relies₁.trans paused world later here other.1
  induction turns generalizing first with
  | done answer world =>
      refine ⟨(compatible.yields₂ first world abides.1).2, ?_⟩
      intro later other
      refine resumes later (onward world later abides.1 other) _ ?_
      intro further relied₂
      refine ⟨compatible.still₂ further, ?_⟩
      have held := compatible.stable₂ answer world later abides.2 other.2
      exact compatible.stable₂ answer later further held relied₂
  | turn ended others world ih =>
      refine ⟨(compatible.yields₂ first world abides.1).2, ?_⟩
      intro later other
      have here := onward world later abides.1 other
      refine ih later here (abides.2 later other.2) ?_
      intro world' later' step other'
      have next := compatible.relies₁.trans paused later world' here (compatible.yields₂ later world' step).1
      exact compatible.relies₁.trans paused world' later' next other'.1
  | roundEnd others world ih =>
      refine ⟨(compatible.yields₂ first world abides.1).2, ?_⟩
      intro later other
      refine resumes later (onward world later abides.1 other) others ?_
      intro further relied₂
      exact abides.2 further (compatible.relies₂.trans world later further other.2 relied₂)

theorem abides_before {poll : Poll W A} {others : W → Turns W B} {first : W}
    (compatible : Compatible rely₁ guar₁ post₁ rely₂ guar₂ post₂ guar)
    (abides₁ : Poll.Abides rely₁ guar₁ post₁ first poll)
    (abides₂ : ∀ later, rely₂ first later → Abides rely₂ guar₂ post₂ later (others later)) :
    Abides (bothRely rely₁ rely₂) guar (bothAnswered post₁ post₂) first (before poll others) := by
  induction poll generalizing first others with
  | ready answer world =>
      obtain ⟨relied, step⟩ := compatible.yields₁ first world abides₁.1
      refine ⟨step, ?_⟩
      intro later other
      have here := compatible.relies₂.trans first world later relied other.2
      exact abides_answered compatible (compatible.stable₁ answer world later abides₁.2 other.1) (abides₂ later here)
  | pending rest world ih =>
      obtain ⟨relied, step⟩ := compatible.yields₁ first world abides₁.1
      refine ⟨step, ?_⟩
      intro later other
      have here := compatible.relies₂.trans first world later relied other.2
      refine abides_round compatible ?_ other.1 (abides₂ later here)
      intro further relied₁ others' rest'
      exact ih further (abides₁.2 further relied₁) rest'

end Two

theorem abides_of_jobs {rely guar : W → W → Prop} {jobs : List (Job W A)} {first : W} (relies : Composes rely)
    (composes : Composes guar) (yields : ∀ before after, guar before after → rely before after)
    (each : ∀ job ∈ jobs, ∀ world, rely first world →
      Poll.Abides rely guar (fun _ _ => True) world (job world)) :
    Abides rely guar (fun _ _ => True) first (ofJobs jobs first) := by
  induction jobs generalizing first with
  | nil => exact ⟨composes.refl first, trivial⟩
  | cons job jobs ih =>
      have compatible : Compatible rely guar (fun (_ : A) _ => True) rely guar (fun (_ : List A) _ => True) guar :=
        ⟨relies, relies, composes.refl, fun before after step => ⟨yields before after step, step⟩,
          fun before after step => ⟨yields before after step, step⟩, fun _ _ _ _ _ => trivial, fun _ _ _ _ _ => trivial⟩
      have rest (later : W) (other : rely first later) :
          Abides rely guar (fun _ _ => True) later (ofJobs jobs later) := by
        apply ih
        intro next member world further
        exact each next (by simp [member]) world (relies.trans first later world other further)
      have together := abides_before compatible (each job (by simp) first (relies.refl first)) rest
      have relaxed : Abides rely guar (fun _ _ => True) first (before (job first) (ofJobs jobs)) :=
        abides_mono together (fun _ _ step => ⟨step, step⟩) (fun _ _ step => step) (fun _ _ _ => trivial)
      exact abides_map relaxed (fun _ _ _ => trivial)

end Turns

namespace Job

theorem all_abides {rely guar : W → W → Prop} {jobs : List (Job W A)} {post : List A → W → Prop} {first : W}
    (refl : ∀ world, rely world world) (trans : ∀ a b c, guar a b → guar b c → guar a c)
    (abides : Turns.Abides rely guar post first (Turns.ofJobs jobs first)) :
    Poll.Abides rely guar post first (all jobs first) := by
  by_cases small : jobs.length ≤ smallGroup
  · rw [all, if_pos small]
    exact Turns.abides_by_round refl trans abides
  · rw [all, if_neg small]
    exact Turns.abides_by_suspension jobs.length false refl trans abides

end Job

end CacheTiers
