import CacheTiers.Proofs.Resolve.Agreement
import CacheTiers.Proofs.Resolve.Ending

namespace CacheTiers

variable {ι W K V σ R E : Type} [DecidableEq ι]

-- One schedule of a call. The tiers and the origin suspend as they like, and do to the cells what they do in any other.
structure Schedule (cells : Cells ι W K V σ) (name : String) (names : List String) (places : List ι) (runtime : Bool)
    (given : Except (Failure E) R) (contents : ι → σ) where
  operation : Operation (Tier W K V)
  current : Bool
  origin : Job W (Except (Failure E) R)
  elapsed : Float
  start : Context W
  named : operation.name = name
  tiers : operation.tiers.map Tier.name = names
  runs : List.Forall₂ cells.RunsLate places operation.tiers
  backfills : (operation.backfillRuntime || current) = runtime
  gives : cells.GivesLate given origin
  valid : cells.valid start.world
  reads : cells.contents start.world = contents

namespace Schedule

variable {cells : Cells ι W K V σ} {name : String} {names : List String} {places : List ι} {runtime : Bool}
  {given : Except (Failure E) R} {contents : ι → σ}

def call (schedule : Schedule cells name names places runtime given contents) (key : K) : Call W K R E :=
  .suspending key schedule.current schedule.origin schedule.elapsed none

def run (schedule : Schedule cells name names places runtime given contents) (through : Bool) (form : ResultForm V R)
    (key : K) : Option (Except (Failure E) R) × Context W :=
  (schedule.call key).runEnding ((schedule.call key).ends through schedule.operation.name) schedule.operation form schedule.start

theorem every_schedule (cells : Cells ι W K V σ) (name : String) (names : List String) (places : List ι) (runtime : Bool)
    (given : Except (Failure E) R) (contents : ι → σ) (through : Bool) (form : ResultForm V R) (key : K)
    (apart : places.Nodup) :
    ∃ (result : Except (Failure E) R) (final : ι → σ) (counters : List Counter),
      (∀ present value error, given = .ok present → form.toValue? present = some value →
        (cells.search key [] places contents).1 = .missed →
        cells.FailsFirst key value places (cells.search key [] places contents).2 error → result = .error (.cache error)) ∧
      ∀ schedule : Schedule cells name names places runtime given contents,
        let ended := schedule.run through form key
        ended.1 = some result ∧ cells.contents ended.2.world = final ∧
          ∃ timers, Metrics.Grows counters timers schedule.start.metrics ended.2.metrics := by
  by_cases inhabited : places = []
  · subst inhabited
    refine ⟨.error (Resolve.noTiers name), contents, [], ?_, ?_⟩
    · rintro present value error - - - ⟨nearer, place, further, split, -⟩
      simp at split
    · intro schedule
      have empty : schedule.operation.tiers = [] := List.forall₂_nil_left_iff.mp schedule.runs
      have ran : schedule.run through form key = (some (.error (Resolve.noTiers schedule.operation.name)),
          ⟨schedule.start.world, (schedule.call key).ends through schedule.operation.name schedule.start.metrics⟩) := by
        simp only [run, call, Call.runEnding, Job.runUntil, empty, Resolve.suspending]
        rfl
      simp only [ran, schedule.named, true_and]
      exact ⟨schedule.reads, _, (schedule.call key).ends_grows through _ _⟩
  · refine ⟨(cells.resolved (cells.behind runtime) cells.issue name form key places given contents).1,
      (cells.resolved (cells.behind runtime) cells.issue name form key places given contents).2,
      cells.counted runtime name form key names places given contents, ?_, ?_⟩
    · intro present value error gave valued missed fails
      have fault := (cells.fault_some key value places _ error).mpr fails
      rcases told : cells.search key [] places contents with ⟨course, after⟩
      rw [told] at missed fault
      dsimp only at missed
      subst gave missed
      simp only [Cells.resolved, told, valued, Cells.issue, fault, Cells.finish]
    · intro schedule
      have settles := Resolve.suspending_settles cells schedule.operation.name form key places schedule.operation.tiers
        schedule.operation.backfillRuntime schedule.current given schedule.origin schedule.start schedule.runs apart
        schedule.gives schedule.valid inhabited
      rw [schedule.tiers, schedule.backfills, schedule.reads] at settles
      rcases ended : (Resolve.suspending schedule.operation.name form key schedule.operation.tiers
        schedule.operation.backfillRuntime schedule.current schedule.origin).run schedule.start with ⟨outcome, after⟩
      rw [ended, schedule.named] at settles
      have ends := (schedule.call key).ends_grows through schedule.operation.name after.metrics
      obtain ⟨⟨answered, moves⟩, counted⟩ := settles
        ⟨after.world, (schedule.call key).ends through schedule.operation.name after.metrics⟩ (cells.rests_refl after.world)
      have ran : schedule.run through form key = (some outcome.result, Resolve.settleDispatched outcome.dispatched
          ⟨after.world, (schedule.call key).ends through schedule.operation.name after.metrics⟩) := by
        simp only [run, call, Call.runEnding, Job.runUntil, ended]
        rfl
      simp only [ran]
      exact ⟨congrArg some answered, moves.contents, _, counted _ ends⟩

theorem schedules_agree (one other : Schedule cells name names places runtime given contents) (through : Bool)
    (form : ResultForm V R) (key : K) (apart : places.Nodup)
    (enabled : one.start.metrics.enabled = other.start.metrics.enabled)
    (counts : ∀ counter, one.start.metrics.count counter = other.start.metrics.count counter) :
    let first := one.run through form key
    let second := other.run through form key
    (∃ result, first.1 = some result ∧ second.1 = some result) ∧
    cells.contents first.2.world = cells.contents second.2.world ∧
    (∀ counter, first.2.metrics.count counter = second.2.metrics.count counter) ∧
    ∀ present value error, given = .ok present → form.toValue? present = some value →
      (cells.search key [] places contents).1 = .missed →
      cells.FailsFirst key value places (cells.search key [] places contents).2 error →
        first.1 = some (.error (.cache error)) := by
  intro first second
  obtain ⟨result, final, counters, fails, each⟩ := every_schedule cells name names places runtime given contents through form
    key apart
  obtain ⟨answered, left, timers, grown⟩ := each one
  obtain ⟨again, leaves, others, grows⟩ := each other
  refine ⟨⟨result, answered, again⟩, left.trans leaves.symm, ?_, ?_⟩
  · exact Metrics.grows_alike grown grows enabled counts
  · intro present value error gave valued missed failing
    rw [answered, fails present value error gave valued missed failing]

def refusing (near far : Nat) : Context World :=
  ⟨⟨[⟨.scripted ⟨"near", .empty, none, some ⟨.tier "near" "down", none⟩, 0, near, .usual⟩, true⟩,
    ⟨.scripted ⟨"far", .empty, none, some ⟨.tier "far" "down", none⟩, 1, far, .usual⟩, true⟩], .empty, []⟩, .empty⟩

def refusals (near far waits : Nat) :
    Schedule (E := String) (World.Look.untimed.cells [0, 1]) "load" ["near", "far"] [0, 1] false (.ok (Json.int 9))
      ((World.Look.untimed.cells [0, 1]).contents (refusing 0 0).world) where
  operation := ⟨"load", [World.tier ⟨0, "near"⟩, World.tier ⟨1, "far"⟩], ["id"], .plain, false⟩
  current := false
  origin := Session.originJob (.ok (.int 9)) waits
  elapsed := 0
  start := refusing near far
  named := rfl
  tiers := rfl
  runs := .cons (World.Look.untimed.tier_runs_late [0, 1] ⟨0, "near"⟩ (by decide))
    (.cons (World.Look.untimed.tier_runs_late [0, 1] ⟨1, "far"⟩ (by decide)) .nil)
  backfills := rfl
  gives := World.Look.untimed.gives_late_of [0, 1] (World.origin_job_gives [0, 1] _ waits)
  valid := by
    intro index member
    rcases List.mem_pair.mp member with rfl | rfl
    · exact ⟨_, rfl, rfl⟩
    · exact ⟨_, rfl, rfl⟩
  reads := by
    funext index
    rcases index with _ | _ | index
    · rfl
    · rfl
    · rfl

-- In the first schedule the write to the far tier fails four rounds before that to the near one.
theorem refusals_agree :
    let late := (refusals 5 1 2).run true ResultForm.plain (.int 1)
    let early := (refusals 0 3 0).run true ResultForm.plain (.int 1)
    late.1 = some (.error (.cache (.tier "near" "down"))) ∧ late.1 = early.1 ∧
      ∀ counter, late.2.metrics.count counter = early.2.metrics.count counter := by
  obtain ⟨⟨result, first, second⟩, _, counts, fails⟩ := schedules_agree (refusals 5 1 2) (refusals 0 3 0) true
    ResultForm.plain (.int 1) (by decide) rfl (fun _ => rfl)
  refine ⟨fails (.int 9) (.int 9) _ rfl rfl rfl ?_, first.trans second.symm, counts⟩
  exact ⟨[], 0, [1], rfl, List.forall_mem_nil _, rfl⟩

end Schedule

end CacheTiers
