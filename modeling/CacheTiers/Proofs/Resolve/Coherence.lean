import CacheTiers.Proofs.Resolve.Progress
import CacheTiers.Proofs.World.Maps

namespace CacheTiers

variable {ι W K V R E : Type}

-- A call of an operation. A suspending one is run to its end, or polled a number of times and dropped.
inductive Call (W K R E : Type) where
  | blocking (key : K) (origin : W → Except (Failure E) R × W) (elapsed : Float)
  | suspending (key : K) (current : Bool) (origin : Job W (Except (Failure E) R)) (elapsed : Float)
    (polls : Option Nat)

namespace Call

def key : Call W K R E → K
  | blocking key _ _ => key
  | suspending key _ _ _ _ => key

def Asks (view : View ι W K V) : Call W K R E → Prop
  | blocking _ origin _ => view.Asks origin
  | suspending _ _ origin _ _ => view.AsksLate origin

-- The result of a call, if it was not dropped, and the context after the work that it dispatched.
def run (operation : Operation (Tier W K V)) (form : ResultForm V R) (context : Context W) :
    Call W K R E → Option (Except (Failure E) R) × Context W
  | blocking key origin elapsed =>
    let (result, context) := operation.resolve form key origin elapsed context
    (some result, context)
  | suspending key current origin elapsed polls =>
    let job := operation.resolveAsync form key current origin elapsed
    match polls with
    | none =>
      let (outcome, context) := job.run context
      (some outcome.result, Resolve.settleDispatched outcome.dispatched context)
    | some polls =>
      match job.runFor polls context with
      | (some outcome, context) => (some outcome.result, Resolve.settleDispatched outcome.dispatched context)
      | (none, context) => (none, context)

structure Report (W K R E : Type) where
  key : K
  result : Option (Except (Failure E) R)
  before : W
  after : W

def runAll (operation : Operation (Tier W K V)) (form : ResultForm V R) :
    List (Call W K R E) → Context W → List (Report W K R E) × Context W
  | [], context => ([], context)
  | call :: rest, context =>
    let (result, after) := call.run operation form context
    let (reports, final) := runAll operation form rest after
    (⟨call.key, result, context.world, after.world⟩ :: reports, final)

theorem run_progress (view : View ι W K V) (operation : Operation (Tier W K V)) (form : ResultForm V R)
    (places : List ι) (call : Call W K R E) (context : Context W)
    (stack : List.Forall₂ view.Mapped places operation.tiers) (asks : call.Asks view)
    (valid : view.valid context.world) (coherent : view.Coherent places context.world) :
    view.Progress places call.key context.world (call.run operation form context).2.world ∧
      ∀ result, (call.run operation form context).1 = some result →
        view.Answers places call.key form context.world result := by
  cases call with
  | blocking key origin elapsed =>
      have ended := Resolve.blocking_progress view operation.name form key places operation.tiers origin context stack asks
        valid coherent
      refine ⟨ended.1, ?_⟩
      intro result same
      cases same
      exact ended.2
  | suspending key current origin elapsed polls =>
      have resolved := Resolve.suspending_ended view operation.name form key places operation.tiers
        operation.backfillRuntime current origin context stack asks valid coherent
      have timed : Poll.Abides Eq (Reaches fun now => view.Progress places key context.world now.world)
          (fun outcome now => Resolve.Ended view places key form context.world outcome now.world) context
          (operation.resolveAsync form key current origin elapsed context) :=
        Poll.abides_bind reaches_trans resolved (fun _ now ended => ⟨ended.progress, ended⟩)
      cases polls with
      | none =>
          obtain ⟨progress, ended⟩ := Job.run_abides (fun _ => rfl) reaches_trans timed
          refine ⟨Resolve.settle_dispatched_progress view form key places _ _ _ coherent valid ended, ?_⟩
          intro result same
          cases same
          exact ended.answers
      | some polls =>
          have start := view.progress_of_same places key _ _ valid (view.composes_same.refl context.world)
          obtain ⟨progress, answered⟩ := Job.run_for_reaches polls (fun _ => rfl) timed start
          simp only [run]
          rcases ran : (operation.resolveAsync form key current origin elapsed).runFor polls context with ⟨outcome, after⟩
          rw [ran] at progress answered
          cases outcome with
          | none => exact ⟨progress, fun _ impossible => by cases impossible⟩
          | some outcome =>
              have ended := answered outcome rfl
              refine ⟨Resolve.settle_dispatched_progress view form key places _ _ _ coherent valid ended, ?_⟩
              intro result same
              cases same
              exact ended.answers

theorem run_all_keeps (view : View ι W K V) (operation : Operation (Tier W K V)) (form : ResultForm V R)
    (places : List ι) (calls : List (Call W K R E)) (context : Context W)
    (stack : List.Forall₂ view.Mapped places operation.tiers) (asks : ∀ call ∈ calls, call.Asks view)
    (valid : view.valid context.world) (coherent : view.Coherent places context.world) :
    view.valid (runAll operation form calls context).2.world ∧
      view.Coherent places (runAll operation form calls context).2.world ∧
      ∀ place ∈ places, ∀ key value, view.held place context.world key = some value →
        view.held place (runAll operation form calls context).2.world key = some value ∧
        ∀ report ∈ (runAll operation form calls context).1, report.key = key →
          view.asked report.after = view.asked report.before ∧
          ∀ given, report.result = some (.ok given) → given = form.ofValue value := by
  induction calls generalizing context with
  | nil => exact ⟨valid, coherent, fun place member key value held => ⟨held, fun report none => by cases none⟩⟩
  | cons call rest ih =>
      obtain ⟨progress, answers⟩ := run_progress view operation form places call context stack (asks call (by simp))
        valid coherent
      rw [runAll]
      rcases ran : call.run operation form context with ⟨result, after⟩
      rw [ran] at progress answers
      obtain ⟨last, agreed, further⟩ := ih after (fun other member => asks other (by simp [member])) progress.valid
        (view.progress_coherent places call.key _ _ coherent progress)
      refine ⟨last, agreed, ?_⟩
      intro place member key value held
      have kept := view.progress_held places call.key _ _ progress place member key value held
      obtain ⟨stays, reports⟩ := further place member key value kept
      refine ⟨stays, ?_⟩
      intro report reported same
      rcases List.mem_cons.mp reported with rfl | later
      · subst same
        refine ⟨progress.unasked ⟨place, member, value, held⟩, ?_⟩
        intro given success
        exact answers (.ok given) success place member value held given rfl
      · exact reports report later same

-- Both parts of a sequence are arbitrary, so what is said of the point between them holds at every point.
theorem calls_keep_stack_coherent (view : View ι W K V) (operation : Operation (Tier W K V)) (form : ResultForm V R)
    (places : List ι) (earlier later : List (Call W K R E)) (start : Context W)
    (stack : List.Forall₂ view.Mapped places operation.tiers) (asks : ∀ call ∈ earlier ++ later, call.Asks view)
    (valid : view.valid start.world) (coherent : view.Coherent places start.world) :
    let middle := (runAll operation form earlier start).2
    let rest := runAll operation form later middle
    view.Coherent places middle.world ∧
      ∀ place ∈ places, ∀ key value, view.held place middle.world key = some value →
        (view.held place rest.2.world key = some value ∧
          ∀ other ∈ places, ∀ read, view.held other rest.2.world key = some read → read = value) ∧
        ∀ report ∈ rest.1, report.key = key →
          view.asked report.after = view.asked report.before ∧
          ∀ given, report.result = some (.ok given) → given = form.ofValue value := by
  intro middle rest
  obtain ⟨reached, between, _⟩ := run_all_keeps view operation form places earlier start stack
    (fun call member => asks call (by simp [member])) valid coherent
  obtain ⟨_, final, kept⟩ := run_all_keeps view operation form places later middle stack
    (fun call member => asks call (by simp [member])) reached between
  refine ⟨between, ?_⟩
  intro place member key value held
  obtain ⟨stays, reports⟩ := kept place member key value held
  refine ⟨⟨stays, ?_⟩, reports⟩
  intro other inPlaces read reads
  exact final key other inPlaces place member read value reads stays

def failingStart : Context World :=
  ⟨⟨[⟨.scripted ⟨"near", .empty, none, some ⟨.tier "near" "down", some 1⟩, 1, 2, .usual⟩, true⟩,
    ⟨.memory (.new "far" 10 none), true⟩], .empty, []⟩, .empty⟩

def failingOperation : Operation (Tier World Json Json) :=
  ⟨"load", [World.tier ⟨0, "near"⟩, World.tier ⟨1, "far"⟩], ["id"], .plain, false⟩

def failingCalls : List (Call World Json Json String) :=
  [.blocking (.int 1) (Session.originAction (.ok (.int 7))) 0,
    .suspending (.int 1) false (Session.originJob (.ok (.int 8)) 1) 0 (some 5),
    .suspending (.int 1) true (Session.originJob (.ok (.int 9)) 1) 0 none]

theorem failing_calls_keep_stack_coherent :
    (World.maps [0, 1]).held 0 (runAll failingOperation ResultForm.plain failingCalls failingStart).2.world (.int 1) =
        some (.int 8) ∧
      ∀ report ∈ (runAll failingOperation ResultForm.plain failingCalls
          (runAll failingOperation ResultForm.plain failingCalls failingStart).2).1, report.key = .int 1 →
        (World.maps [0, 1]).asked report.after = (World.maps [0, 1]).asked report.before ∧
        ∀ given, report.result = some (.ok given) → given = .int 8 := by
  have held : (World.maps [0, 1]).held 0 (runAll failingOperation ResultForm.plain failingCalls failingStart).2.world (.int 1) =
      some (.int 8) := by decide +kernel
  have stack : List.Forall₂ (World.maps [0, 1]).Mapped [0, 1] failingOperation.tiers :=
    .cons (World.tier_mapped [0, 1] ⟨0, "near"⟩ (by decide)) (.cons (World.tier_mapped [0, 1] ⟨1, "far"⟩ (by decide)) .nil)
  have asks : ∀ call ∈ failingCalls ++ failingCalls, call.Asks (World.maps [0, 1]) := by
    simp only [failingCalls, List.cons_append, List.nil_append, List.forall_mem_cons]
    exact ⟨World.origin_action_asks [0, 1] _, World.origin_job_asks_late [0, 1] _ 1, World.origin_job_asks_late [0, 1] _ 1,
      World.origin_action_asks [0, 1] _, World.origin_job_asks_late [0, 1] _ 1, World.origin_job_asks_late [0, 1] _ 1,
      List.forall_mem_nil _⟩
  have valid : (World.maps [0, 1]).valid failingStart.world := by
    intro index member
    rcases List.mem_pair.mp member with rfl | rfl
    · exact ⟨_, rfl, rfl⟩
    · exact ⟨_, rfl, trivial⟩
  have coherent : (World.maps [0, 1]).Coherent [0, 1] failingStart.world := by
    have empty : ∀ place ∈ [0, 1], ∀ key, (World.maps [0, 1]).held place failingStart.world key = none := by
      simp only [List.forall_mem_cons]
      exact ⟨fun key => rfl, fun key => rfl, List.forall_mem_nil _⟩
    intro key place member other others value read holds
    rw [empty place member key] at holds
    cases holds
  have kept := calls_keep_stack_coherent (World.maps [0, 1]) failingOperation ResultForm.plain [0, 1] failingCalls
    failingCalls failingStart stack asks valid coherent
  have reports := (kept.2 0 (.head _) (.int 1) (.int 8) held).2
  exact ⟨held, reports⟩

end Call

end CacheTiers
