import CacheTiers.Proofs.Job.Abides
import Mathlib.Data.List.Forall2

namespace CacheTiers

variable {ι W A : Type}

-- What a job that has a place does, what it relies on meanwhile, and what holds once it has ended.
structure Footing (ι W A : Type) where
  relies : ι → W → W → Prop
  keeps : ι → W → W → Prop
  ends : ι → A → W → Prop

namespace Footing

structure Apart (footing : Footing ι W A) : Prop where
  relies : ∀ place, Composes (footing.relies place)
  keeps : ∀ place, Composes (footing.keeps place)
  away : ∀ place other, other ≠ place → ∀ before after, footing.keeps place before after → footing.relies other before after
  stable : ∀ place answer before after, footing.ends place answer before → footing.relies place before after →
    footing.ends place answer after

-- What the jobs of some places do together: nothing that the others rely on, and only what `among` allows.
def Together (footing : Footing ι W A) (among : W → W → Prop) (places : List ι) (before after : W) : Prop :=
  among before after ∧ ∀ other, other ∉ places → footing.relies other before after

def Relied (footing : Footing ι W A) (places : List ι) (before after : W) : Prop :=
  ∀ place ∈ places, footing.relies place before after

variable {footing : Footing ι W A} {among : W → W → Prop}

theorem composes_together (apart : footing.Apart) (composes : Composes among) (places : List ι) :
    Composes (footing.Together among places) := by
  refine ⟨fun world => ⟨composes.refl world, fun other _ => (apart.relies other).refl world⟩, ?_⟩
  intro a b c first second
  exact ⟨composes.trans a b c first.1 second.1,
    fun other outside => (apart.relies other).trans a b c (first.2 other outside) (second.2 other outside)⟩

theorem composes_relied (apart : footing.Apart) (places : List ι) : Composes (footing.Relied places) :=
  ⟨fun world place _ => (apart.relies place).refl world,
    fun a b c first second place member => (apart.relies place).trans a b c (first place member) (second place member)⟩

theorem compatible (apart : footing.Apart) (composes : Composes among) (place : ι) (places : List ι)
    (kept : ∀ before after, footing.keeps place before after → among before after) (other : place ∉ places) :
    Turns.Compatible (footing.relies place) (footing.keeps place) (footing.ends place) (footing.Relied places)
      (footing.Together among places) (fun answers now => List.Forall₂ (fun place answer => footing.ends place answer now)
        places answers) (footing.Together among (place :: places)) := by
  refine ⟨apart.relies place, composes_relied apart places, (composes_together apart composes places).refl, ?_, ?_,
    apart.stable place, ?_⟩
  · intro before after step
    refine ⟨fun next member => apart.away place next (fun same => other (same ▸ member)) before after step,
      kept before after step, ?_⟩
    intro next outside
    exact apart.away place next (fun same => outside (same ▸ List.mem_cons_self)) before after step
  · intro before after step
    exact ⟨step.2 place other, step.1, fun next outside => step.2 next (fun member => outside (List.mem_cons_of_mem _ member))⟩
  · intro answers before after ended relied
    induction ended with
    | nil => exact .nil
    | @cons next answer places answers first rest ih =>
        have further : place ∉ places := fun member => other (List.mem_cons_of_mem _ member)
        exact .cons (apart.stable next answer before after first (relied next List.mem_cons_self))
          (ih further fun spot member => relied spot (List.mem_cons_of_mem _ member))

end Footing

namespace Turns

variable {footing : Footing ι W A} {among : W → W → Prop}

theorem abides_apart (apart : footing.Apart) (composes : Composes among) (places : List ι) (jobs : List (Job W A))
    (start first : W) (distinct : places.Nodup)
    (kept : ∀ place ∈ places, ∀ before after, footing.keeps place before after → among before after)
    (each : List.Forall₂ (fun place job => ∀ later, footing.relies place start later →
      Poll.Abides (footing.relies place) (footing.keeps place) (footing.ends place) later (job later)) places jobs)
    (reached : footing.Relied places start first) :
    Abides (footing.Relied places) (footing.Together among places)
      (fun answers now => List.Forall₂ (fun place answer => footing.ends place answer now) places answers) first
      (ofJobs jobs first) := by
  induction each generalizing first with
  | nil => exact ⟨(Footing.composes_together apart composes []).refl first, .nil⟩
  | @cons place job places jobs alone others ih =>
      obtain ⟨other, distinct⟩ := List.nodup_cons.mp distinct
      obtain ⟨here, further⟩ := List.forall_mem_cons.mp kept
      obtain ⟨own, theirs⟩ := List.forall_mem_cons.mp reached
      have rest (later : W) (relied : footing.Relied places first later) :
          Abides (footing.Relied places) (footing.Together among places) _ later (ofJobs jobs later) :=
        ih later distinct further ((Footing.composes_relied apart places).trans start first later theirs relied)
      have together := abides_before (Footing.compatible apart composes place places here other) (alone first own) rest
      exact abides_map (abides_mono together (fun before after relied => List.forall_mem_cons.mp relied) (fun _ _ step => step)
        (fun _ _ held => held)) fun answers now ended => .cons ended.1 ended.2

end Turns

theorem each_in_range {holds : Nat → A → Prop} (place count : Nat) (answers : List A)
    (each : List.Forall₂ holds (List.range' place count) answers) (spot : Nat) (answer : A)
    (found : answers[spot]? = some answer) : holds (place + spot) answer := by
  induction answers generalizing place count spot with
  | nil => cases found
  | cons first rest ih =>
      cases count with
      | zero => cases each
      | succ count =>
          rw [List.range'_succ] at each
          obtain ⟨here, others⟩ := List.forall₂_cons.mp each
          cases spot with
          | zero =>
              cases found
              exact here
          | succ spot =>
              have later := ih (place + 1) count others spot found
              rwa [Nat.add_assoc, Nat.add_comm 1] at later

theorem Job.run_all_apart {footing : Footing ι W A} {among : W → W → Prop} (apart : footing.Apart)
    (composes : Composes among) (places : List ι) (jobs : List (Job W A)) (start : W) (distinct : places.Nodup)
    (kept : ∀ place ∈ places, ∀ before after, footing.keeps place before after → among before after)
    (each : List.Forall₂ (fun place job => ∀ later, footing.relies place start later →
      Poll.Abides (footing.relies place) (footing.keeps place) (footing.ends place) later (job later)) places jobs) :
    let ended := (Job.all jobs).run start
    footing.Together among places start ended.2 ∧
      List.Forall₂ (fun place answer => footing.ends place answer ended.2) places ended.1 := by
  have relies := Footing.composes_relied apart places
  have keeps := Footing.composes_together apart composes places
  have together := Turns.abides_apart apart composes places jobs start start distinct kept each (relies.refl start)
  exact Job.run_abides relies.refl keeps.trans (Job.all_abides relies.refl keeps.trans together)

end CacheTiers
