import CacheTiers.Job.Group
import CacheTiers.Proofs.Job.Run
import Mathlib.Data.List.Forall2

namespace CacheTiers

variable {W U A B C D : Type}

def Alike (rel : W → U → Prop) (same : A → B → Prop) (first : A × W) (second : B × U) : Prop :=
  same first.1 second.1 ∧ rel first.2 second.2

theorem alike_ends {rel : W → U → Prop} {first : A × W} {second : A × U} (alike : Alike rel Eq first second) :
    ∃ answer world beside, first = (answer, world) ∧ second = (answer, beside) ∧ rel world beside :=
  ⟨first.1, first.2, second.2, rfl, Prod.ext alike.1.symm rfl, alike.2⟩

def Context.Related (rel : W → U → Prop) (context : Context W) (beside : Context U) : Prop :=
  rel context.world beside.world

def Context.Matched (rel : W → U → Prop) (tally : Metrics → Metrics → Prop) (context : Context W) (beside : Context U) :
    Prop := rel context.world beside.world ∧ tally context.metrics beside.metrics

theorem Context.matched_any (rel : W → U → Prop) :
    Context.Matched rel (fun _ _ => True) = Context.Related rel := by
  funext context beside
  simp only [Context.Matched, Context.Related, and_true]

def Poll.InStep (rel : W → U → Prop) (same : A → B → Prop) : Poll W A → Poll U B → Prop
  | .ready answer world, .ready other beside => same answer other ∧ rel world beside
  | .pending rest world, .pending others beside =>
    rel world beside ∧ ∀ later besideLater, rel later besideLater → InStep rel same (rest later) (others besideLater)
  | _, _ => False

def Turns.InStep (rel : W → U → Prop) : Turns W A → Turns U A → Prop
  | .done answer world, .done other beside => answer = other ∧ rel world beside
  | .turn ended rest world, .turn also others beside =>
    ended = also ∧ rel world beside ∧
      ∀ later besideLater, rel later besideLater → InStep rel (rest later) (others besideLater)
  | .roundEnd rest world, .roundEnd others beside =>
    rel world beside ∧ ∀ later besideLater, rel later besideLater → InStep rel (rest later) (others besideLater)
  | _, _ => False

namespace Poll

variable {rel : W → U → Prop} {same : A → B → Prop} {tally : Metrics → Metrics → Prop}

theorem in_step_finish (first : Poll W A) (second : Poll U B) (inStep : first.InStep rel same second) :
    Alike rel same first.finish second.finish := by
  induction first generalizing second with
  | ready answer world =>
      cases second with
      | ready other beside => exact inStep
      | pending others beside => exact inStep.elim
  | pending rest world ih =>
      cases second with
      | ready other beside => exact inStep.elim
      | pending others beside => exact ih world (others beside) (inStep.2 world beside inStep.1)

theorem in_step_besides (first : Poll W A) (second : Poll U B) (metrics other : Metrics)
    (inStep : first.InStep rel same second) (tallied : tally metrics other) :
    (first.besides metrics).InStep (Context.Matched rel tally) same (second.besides other) := by
  induction first generalizing second metrics other with
  | ready answer world =>
      cases second with
      | ready _ _ => exact ⟨inStep.1, inStep.2, tallied⟩
      | pending _ _ => exact inStep.elim
  | pending rest world ih =>
      cases second with
      | ready _ _ => exact inStep.elim
      | pending others beside =>
          refine ⟨⟨inStep.1, tallied⟩, ?_⟩
          intro later besideLater matched
          exact ih later.world _ later.metrics besideLater.metrics (inStep.2 later.world besideLater.world matched.1) matched.2

end Poll

namespace Job

def InStep (rel : W → U → Prop) (same : A → B → Prop) (first : Job W A) (second : Job U B) : Prop :=
  ∀ world beside, rel world beside → (first world).InStep rel same (second beside)

variable {rel : W → U → Prop} {same : A → B → Prop}

theorem pure_in_step (answer : A) (other : B) (alike : same answer other) :
    InStep rel same (pure answer : Job W A) (pure other : Job U B) :=
  fun _ _ related => ⟨alike, related⟩

theorem act_in_step (first : W → A × W) (second : U → B × U)
    (acts : ∀ world beside, rel world beside → Alike rel same (first world) (second beside)) :
    InStep rel same (act first) (act second) := acts

theorem modify_in_step (first : W → W) (second : U → U)
    (changes : ∀ world beside, rel world beside → rel (first world) (second beside)) :
    InStep rel Eq (modify first) (modify second) :=
  fun world beside related => ⟨rfl, changes world beside related⟩

theorem bind_in_step {alike : C → D → Prop} (first : Job W A) (second : Job U B) (next : A → Job W C)
    (other : B → Job U D)
    (inStep : InStep rel same first second)
    (goesOn : ∀ answer given, same answer given → InStep rel alike (next answer) (other given)) :
    InStep rel alike (first >>= next) (second >>= other) := by
  have onward (poll : Poll W A) (twin : Poll U B) (together : poll.InStep rel same twin) :
      (poll.bind next).InStep rel alike (twin.bind other) := by
    induction poll generalizing twin with
    | ready answer world =>
        cases twin with
        | ready given beside => exact goesOn answer given together.1 world beside together.2
        | pending _ _ => exact together.elim
    | pending rest world ih =>
        cases twin with
        | ready _ _ => exact together.elim
        | pending others beside =>
            exact ⟨together.1, fun later besideLater related => ih later _ (together.2 later besideLater related)⟩
  exact fun world beside related => onward _ _ (inStep world beside related)

theorem after_in_step (waits : Nat) (first : W → A × W) (second : U → A × U)
    (acts : ∀ world beside, rel world beside → Alike rel Eq (first world) (second beside)) :
    InStep rel Eq (after waits first) (after waits second) := by
  induction waits with
  | zero => exact acts
  | succ waits ih => exact fun world beside related => ⟨related, ih⟩

theorem run_in_step (first : Job W A) (second : Job U B) (world : W) (beside : U)
    (inStep : InStep rel same first second)
    (related : rel world beside) : Alike rel same (first.run world) (second.run beside) :=
  Poll.in_step_finish (first world) (second beside) (inStep world beside related)

theorem run_for_in_step (polls : Nat) (first : Job W A) (second : Job U B) (world : W) (beside : U)
    (inStep : InStep rel same first second) (related : rel world beside) :
    Alike rel (Option.Rel same) (first.runFor polls world) (second.runFor polls beside) := by
  induction polls generalizing first second world beside with
  | zero => exact ⟨.none, related⟩
  | succ polls ih =>
      have polled := inStep world beside related
      simp only [runFor]
      generalize first world = poll at polled
      generalize second beside = other at polled
      cases poll with
      | ready answer after =>
          cases other with
          | ready given besideAfter => exact ⟨.some polled.1, polled.2⟩
          | pending _ _ => exact polled.elim
      | pending rest after =>
          cases other with
          | ready _ _ => exact polled.elim
          | pending others besideAfter => exact ih rest others after besideAfter polled.2 polled.1

theorem run_until_in_step (polls : Option Nat) (first : Job W A) (second : Job U B) (world : W) (beside : U)
    (inStep : InStep rel same first second) (related : rel world beside) :
    Alike rel (Option.Rel same) (first.runUntil polls world) (second.runUntil polls beside) := by
  cases polls with
  | none =>
      obtain ⟨answers, ended⟩ := run_in_step first second world beside inStep related
      exact ⟨.some answers, ended⟩
  | some polls => exact run_for_in_step polls first second world beside inStep related

theorem on_world_in_step {tally : Metrics → Metrics → Prop} (first : Job W A) (second : Job U B)
    (inStep : InStep rel same first second) :
    InStep (Context.Matched rel tally) same first.onWorld second.onWorld :=
  fun context beside matched =>
    Poll.in_step_besides _ _ context.metrics beside.metrics (inStep context.world beside.world matched.1) matched.2

end Job

namespace Turns

variable {rel : W → U → Prop}

theorem in_step_by_round (first : Turns W A) (second : Turns U A) (inStep : first.InStep rel second) :
    first.byRound.InStep rel Eq second.byRound := by
  induction first generalizing second with
  | done answer world =>
      cases second with
      | done other beside => exact inStep
      | turn _ _ _ => exact inStep.elim
      | roundEnd _ _ => exact inStep.elim
  | turn ended rest world ih =>
      cases second with
      | done _ _ => exact inStep.elim
      | turn _ others beside => exact ih world (others beside) (inStep.2.2 world beside inStep.2.1)
      | roundEnd _ _ => exact inStep.elim
  | roundEnd rest world ih =>
      cases second with
      | done _ _ => exact inStep.elim
      | turn _ _ _ => exact inStep.elim
      | roundEnd others beside =>
          exact ⟨inStep.1, fun later besideLater related => ih later _ (inStep.2 later besideLater related)⟩

-- Both hand control back at the same turns: these are told by which jobs have ended.
theorem in_step_by_suspension (first : Turns W A) (second : Turns U A) (left : Nat) (suspended : Bool)
    (inStep : first.InStep rel second) :
    (first.bySuspension left suspended).InStep rel Eq (second.bySuspension left suspended) := by
  induction first generalizing second left suspended with
  | done answer world =>
      cases second with
      | done other beside => exact inStep
      | turn _ _ _ => exact inStep.elim
      | roundEnd _ _ => exact inStep.elim
  | roundEnd rest world ih =>
      cases second with
      | done _ _ => exact inStep.elim
      | turn _ _ _ => exact inStep.elim
      | roundEnd others beside => exact ih world (others beside) left suspended (inStep.2 world beside inStep.1)
  | turn ended rest world ih =>
      cases second with
      | done _ _ => exact inStep.elim
      | roundEnd _ _ => exact inStep.elim
      | turn also others beside =>
          obtain ⟨rfl, related, onward⟩ := inStep
          cases ended with
          | true => exact ih world (others beside) (left - 1) false (onward world beside related)
          | false =>
              by_cases pauses : (suspended || left = 1) = true
              · rw [bySuspension, bySuspension, if_pos pauses, if_pos pauses]
                exact ⟨related, fun later besideLater further => ih later _ left false (onward later besideLater further)⟩
              · rw [bySuspension, bySuspension, if_neg pauses, if_neg pauses]
                exact ih world (others beside) left true (onward world beside related)

theorem in_step_map (f : A → B) (first : Turns W A) (second : Turns U A) (inStep : first.InStep rel second) :
    (first.map f).InStep rel (second.map f) := by
  induction first generalizing second with
  | done answer world =>
      cases second with
      | done other beside => exact ⟨congrArg f inStep.1, inStep.2⟩
      | turn _ _ _ => exact inStep.elim
      | roundEnd _ _ => exact inStep.elim
  | turn ended rest world ih =>
      cases second with
      | done _ _ => exact inStep.elim
      | turn _ others beside =>
          obtain ⟨same, related, onward⟩ := inStep
          exact ⟨same, related, fun later besideLater further => ih later _ (onward later besideLater further)⟩
      | roundEnd _ _ => exact inStep.elim
  | roundEnd rest world ih =>
      cases second with
      | done _ _ => exact inStep.elim
      | turn _ _ _ => exact inStep.elim
      | roundEnd others beside =>
          exact ⟨inStep.1, fun later besideLater related => ih later _ (inStep.2 later besideLater related)⟩

def Together (rel : W → U → Prop) (first : W → Turns W A) (second : U → Turns U A) : Prop :=
  ∀ world beside, rel world beside → (first world).InStep rel (second beside)

theorem in_step_round (first : Turns W B) (second : Turns U B) (next : (W → Turns W B) → W → Turns W A)
    (other : (U → Turns U B) → U → Turns U A) (inStep : first.InStep rel second)
    (goesOn : ∀ rest others, Together rel rest others → Together rel (next rest) (other others)) :
    (first.round next).InStep rel (second.round other) := by
  induction first generalizing second with
  | done answer world =>
      cases second with
      | done given beside =>
          have ended : Together rel (fun later => done answer later) fun later => done given later :=
            fun _ _ related => ⟨inStep.1, related⟩
          exact goesOn _ _ ended world beside inStep.2
      | turn _ _ _ => exact inStep.elim
      | roundEnd _ _ => exact inStep.elim
  | turn ended rest world ih =>
      cases second with
      | done _ _ => exact inStep.elim
      | turn _ others beside =>
          obtain ⟨same, related, onward⟩ := inStep
          exact ⟨same, related, fun later besideLater further => ih later _ (onward later besideLater further)⟩
      | roundEnd _ _ => exact inStep.elim
  | roundEnd rest world ih =>
      cases second with
      | done _ _ => exact inStep.elim
      | turn _ _ _ => exact inStep.elim
      | roundEnd others beside => exact goesOn rest others inStep.2 world beside inStep.1

theorem in_step_before (first : Poll W A) (second : Poll U A) (rest : W → Turns W B) (others : U → Turns U B)
    (inStep : first.InStep rel Eq second) (together : Together rel rest others) :
    (before first rest).InStep rel (before second others) := by
  induction first generalizing second rest others with
  | ready answer world =>
      cases second with
      | ready other beside =>
          obtain ⟨rfl, related⟩ := inStep
          exact ⟨rfl, related, fun later besideLater further => in_step_map _ _ _ (together later besideLater further)⟩
      | pending _ _ => exact inStep.elim
  | pending more world ih =>
      cases second with
      | ready _ _ => exact inStep.elim
      | pending further beside =>
          refine ⟨rfl, inStep.1, ?_⟩
          intro later besideLater related
          apply in_step_round _ _ _ _ (together later besideLater related)
          intro rest others together world beside related
          exact ⟨related, fun later besideLater related =>
            ih later _ rest others (inStep.2 later besideLater related) together⟩

theorem in_step_of_jobs (first : List (Job W A)) (second : List (Job U A))
    (inStep : List.Forall₂ (Job.InStep rel Eq) first second) : Together rel (ofJobs first) (ofJobs second) := by
  induction inStep with
  | nil => exact fun world beside related => ⟨rfl, related⟩
  | cons job jobs ih =>
      exact fun world beside related => in_step_map _ _ _ (in_step_before _ _ _ _ (job world beside related) ih)

end Turns

theorem Job.all_in_step {rel : W → U → Prop} (first : List (Job W A)) (second : List (Job U A))
    (inStep : List.Forall₂ (Job.InStep rel Eq) first second) : Job.InStep rel Eq (Job.all first) (Job.all second) := by
  intro world beside related
  have turns := Turns.in_step_of_jobs first second inStep world beside related
  rw [Job.all, Job.all, ← inStep.length_eq]
  by_cases small : first.length ≤ Job.smallGroup
  · rw [if_pos small, if_pos small]
    exact Turns.in_step_by_round _ _ turns
  · rw [if_neg small, if_neg small]
    exact Turns.in_step_by_suspension _ _ _ _ turns

end CacheTiers
