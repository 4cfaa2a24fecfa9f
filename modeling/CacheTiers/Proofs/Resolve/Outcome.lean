import CacheTiers.Proofs.Resolve.Settled

namespace CacheTiers.Resolve

variable {ι W K V σ R E : Type} [DecidableEq ι] (cells : Cells ι W K V σ)

theorem through_tiers_resolved (operation : String) (form : ResultForm V R) (key : K) (places : List ι)
    (tiers : List (Tier W K V)) (given : Except (Failure E) R) (origin : W → Except (Failure E) R × W)
    (context : Context W) (stack : List.Forall₂ cells.Runs places tiers) (gives : cells.Gives given origin)
    (valid : cells.valid context.world) :
    cells.Comes (cells.asks key places (cells.contents context.world)) context.world
      (cells.resolved cells.fill cells.fill operation form key places given (cells.contents context.world))
      (throughTiers operation form key tiers origin context) := by
  obtain ⟨follows, moves⟩ := search_follows cells operation key [] places [] tiers context .nil stack valid
  rw [Cells.resolved, Cells.asks, throughTiers]
  rcases told : cells.search key [] places (cells.contents context.world) with ⟨course, contents⟩
  rcases ended : search operation key [] tiers context with ⟨found, after⟩
  rw [told, ended] at follows moves
  cases found with
  | error error =>
      obtain rfl : course = .failed error := follows
      exact ⟨rfl, moves⟩
  | ok held =>
      cases held with
      | hit passed value =>
          obtain ⟨nearer, same, stack⟩ := follows
          obtain rfl : course = .hit nearer value := same
          have filled := fill_follows cells operation .backfill key value nearer passed after stack moves.valid
          rw [moves.contents] at filled
          exact after_fill_comes cells form value _ _ _ _ ⟨filled.1, cells.moves_trans moves filled.2⟩
      | miss =>
          obtain rfl : course = .missed := follows
          obtain ⟨told, asked⟩ := gives after.world moves.valid
          rcases answered : origin after.world with ⟨outcome, world⟩
          rw [answered, moves.contents] at asked
          rw [answered] at told
          have reached := cells.moves_trans moves asked
          have step : (after.recordOrigin operation).onWorld origin =
              (outcome, ⟨world, (after.recordOrigin operation).metrics⟩) := Context.on_world_of_eq answered
          simp only [step]
          subst told
          cases outcome with
          | error failure => exact ⟨rfl, reached⟩
          | ok result =>
              dsimp only
              cases form.toValue? result with
              | none => exact ⟨rfl, reached⟩
              | some value =>
                  have filled := fill_follows cells operation .store key value places tiers
                    ⟨world, (after.recordOrigin operation).metrics⟩ stack reached.valid
                  rw [reached.contents] at filled
                  exact after_fill_comes cells form value _ _ _ _ ⟨filled.1, cells.moves_trans reached filled.2⟩

theorem after_resume_comes (operation tier : String) (form : ResultForm V R) (key : K) (place : ι) (asked : Nat)
    (given : Except (Failure E) R) (start contents : ι → σ) (before later : W) (answer : Lookup V) (final : Context W)
    (missed : cells.search key [] [place] start = (.missed, contents)) (reached : cells.Moves asked before contents later)
    (kept : cells.Keeps place key (.ok (offered form given)) later (answer, final.world)) :
    cells.Comes asked before (cells.resolved cells.fill cells.fill operation form key [place] given start)
      (afterResume operation tier form given (answer, final)) := by
  rw [Cells.resolved, missed]
  cases given with
  | error failure =>
      obtain ⟨rfl, unmoved⟩ := kept
      rw [reached.contents] at unmoved
      exact ⟨rfl, cells.moves_trans reached unmoved⟩
  | ok result =>
      simp only [offered] at kept
      cases present : form.toValue? result with
      | none =>
          rw [present] at kept
          obtain ⟨rfl, unmoved⟩ := kept
          rw [reached.contents] at unmoved
          simp only [present]
          exact ⟨rfl, cells.moves_trans reached unmoved⟩
      | some value =>
          rw [present] at kept
          obtain ⟨stored, moved⟩ := kept
          rw [reached.contents] at stored moved
          have ended := cells.moves_trans reached moved
          subst stored
          simp only [present, Cells.fill]
          cases (cells.put place key value (contents place)).1 with
          | error error => exact ⟨rfl, ended⟩
          | ok done => exact ⟨rfl, ended⟩

theorem through_one_resolved (operation : String) (form : ResultForm V R) (key : K) (place : ι) (tier : Tier W K V)
    (given : Except (Failure E) R) (origin : W → Except (Failure E) R × W) (context : Context W)
    (runs : cells.Runs place tier) (gives : cells.Gives given origin) (valid : cells.valid context.world) :
    cells.Comes (cells.asks key [place] (cells.contents context.world)) context.world
      (cells.resolved cells.fill cells.fill operation form key [place] given (cells.contents context.world))
      (throughOne operation form key tier origin context) := by
  have consults := runs.compute key context.world valid
  cases consult : tier.computeIfAbsent key context.world with
  | answer outcome world =>
      rw [Cells.resolved, Cells.asks, throughOne, consult]
      rw [consult] at consults
      obtain ⟨answered, present, moves⟩ := consults
      rw [Cells.search, ← answered]
      cases outcome with
      | error error => exact ⟨rfl, moves⟩
      | ok found =>
          cases found with
          | some value => exact ⟨rfl, moves⟩
          | none => exact absurd rfl present
  | ask resume world =>
      rw [consult] at consults
      obtain ⟨absent, moves, keeps⟩ := consults
      have missed : cells.search key [] [place] (cells.contents context.world) =
          (.missed, cells.afterGet place key (cells.contents context.world)) := by
        simp only [Cells.search, absent]
      obtain ⟨told, asked⟩ := gives world moves.valid
      rw [moves.contents] at asked
      have reached := cells.moves_trans moves asked
      have kept := keeps (.ok (offered form given)) (origin world).2 reached.valid (by rw [reached.contents, moves.contents])
      have once : cells.asks key [place] (cells.contents context.world) = 0 + 1 := by rw [Cells.asks, missed]
      rw [once, through_one_asked operation form key tier origin context resume world consult, told]
      exact after_resume_comes cells operation tier.name form key place _ given _ _ context.world (origin world).2 _ _ missed
        reached kept

theorem blocking_resolved (operation : String) (form : ResultForm V R) (key : K) (places : List ι)
    (tiers : List (Tier W K V)) (given : Except (Failure E) R) (origin : W → Except (Failure E) R × W)
    (context : Context W) (stack : List.Forall₂ cells.Runs places tiers) (gives : cells.Gives given origin)
    (valid : cells.valid context.world) (inhabited : places ≠ []) :
    cells.Comes (cells.asks key places (cells.contents context.world)) context.world
      (cells.resolved cells.fill cells.fill operation form key places given (cells.contents context.world))
      (blocking operation form key tiers origin context) := by
  cases stack with
  | nil => exact absurd rfl inhabited
  | @cons place tier places tiers runs stack =>
      cases stack with
      | nil => exact through_one_resolved cells operation form key place tier given origin context runs gives valid
      | cons next stack =>
          exact through_tiers_resolved cells operation form key _ _ given origin context (.cons runs (.cons next stack)) gives
            valid

end CacheTiers.Resolve

namespace CacheTiers.Operation

variable {ι W K V σ R E : Type} [DecidableEq ι] (cells : Cells ι W K V σ)

theorem resolve_comes (operation : Operation (Tier W K V)) (form : ResultForm V R) (key : K) (places : List ι)
    (given : Except (Failure E) R) (origin : W → Except (Failure E) R × W) (elapsed : Float) (context : Context W)
    (stack : List.Forall₂ cells.Runs places operation.tiers) (gives : cells.Gives given origin)
    (valid : cells.valid context.world) (inhabited : places ≠ []) :
    cells.Comes (cells.asks key places (cells.contents context.world)) context.world
      (cells.resolved cells.fill cells.fill operation.name form key places given (cells.contents context.world))
      (operation.resolve form key origin elapsed context) :=
  Resolve.blocking_resolved cells operation.name form key places operation.tiers given origin context stack gives valid
    inhabited

theorem resolve_async_comes (operation : Operation (Tier W K V)) (form : ResultForm V R) (key : K) (places : List ι)
    (given : Except (Failure E) R) (origin : Job W (Except (Failure E) R)) (current : Bool) (elapsed : Float)
    (context : Context W) (stack : List.Forall₂ cells.Runs places operation.tiers) (apart : places.Nodup)
    (gives : cells.GivesLate given origin) (valid : cells.valid context.world) (inhabited : places ≠ [])
    (later : Context W) :
    let ended := (operation.resolveAsync form key current origin elapsed).run context
    cells.Rests ended.2.world later.world →
      cells.Comes (cells.asks key places (cells.contents context.world)) context.world
        (cells.resolved (cells.behind (operation.backfillRuntime || current)) cells.issue operation.name form key places given
          (cells.contents context.world))
        (ended.1.result, Resolve.settleDispatched ended.1.dispatched later) := by
  have settles := Resolve.suspending_settles cells operation.name form key places operation.tiers operation.backfillRuntime
    current given origin context (cells.runs_late places operation.tiers stack) apart gives valid inhabited
  simp only [resolveAsync, Job.run_bind, Job.run_modify, Job.run_pure]
  exact fun rests => (settles later rests).1

end CacheTiers.Operation
