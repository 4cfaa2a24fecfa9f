import CacheTiers.Proofs.Job.Apart
import CacheTiers.Proofs.Job.Run
import CacheTiers.Proofs.Resolve.Counting
import Mathlib.Data.List.Forall2
import Mathlib.Logic.Function.Basic

/-!
Tiers that keep what they hold apart from one another. Each of a number of places has a cell, which is all that
the tier in that place reads and writes: its entries, and what becomes of its next calls. What the calls of a
tier do is then told by two functions on its cell, also while other tiers are written to.
-/
namespace CacheTiers

-- How reading a stack in order ends, with the places before the one that was hit.
inductive Course (ι V : Type) where
  | failed (error : CacheError)
  | hit (nearer : List ι) (value : V)
  | missed

structure Cells (ι W K V σ : Type) where
  valid : W → Prop
  contents : W → ι → σ
  asked : W → Nat
  get : ι → K → σ → Lookup V × σ
  put : ι → K → V → σ → Except CacheError Unit × σ

namespace Cells

variable {ι W K V σ R E A : Type} (cells : Cells ι W K V σ)

-- From one world to another in which the cells are as given, while so many origins were asked.
structure Moves (asked : Nat) (before : W) (contents : ι → σ) (after : W) : Prop where
  valid : cells.valid after
  contents : cells.contents after = contents
  asked : cells.asked after = cells.asked before + asked

def Rests (before after : W) : Prop := cells.valid before → cells.Moves 0 before (cells.contents before) after

-- What a write in progress relies on: that the cells of its places are left to it.
def Leaves (places : List ι) (before after : W) : Prop :=
  cells.valid before → cells.valid after ∧ ∀ place ∈ places, cells.contents after place = cells.contents before place

def Confined (places : List ι) (before after : W) : Prop :=
  (cells.valid before → cells.valid after ∧
    ∀ place, place ∉ places → cells.contents after place = cells.contents before place) ∧
  cells.asked after = cells.asked before

def answers (key : K) (value : V) (places : List ι) (contents : ι → σ) : List (Except CacheError Unit) :=
  places.map fun place => (cells.put place key value (contents place)).1

def Written (key : K) (value : V) (places : List ι) (contents : ι → σ) (answers : List (Except CacheError Unit))
    (now : W) : Prop :=
  cells.valid now ∧ answers = cells.answers key value places contents ∧
    ∀ place ∈ places, cells.contents now place = (cells.put place key value (contents place)).2

def Gives (given : A) (origin : W → A × W) : Prop :=
  ∀ world, cells.valid world → (origin world).1 = given ∧ cells.Moves 1 world (cells.contents world) (origin world).2

def GivesLate (given : A) (origin : Job W A) : Prop := cells.Gives given origin.run

theorem moves_refl (world : W) (valid : cells.valid world) : cells.Moves 0 world (cells.contents world) world :=
  ⟨valid, rfl, rfl⟩

theorem moves_trans {first second : Nat} {a b c : W} {middle last : ι → σ} (before : cells.Moves first a middle b)
    (after : cells.Moves second b last c) : cells.Moves (first + second) a last c :=
  ⟨after.valid, after.contents, by rw [after.asked, before.asked, Nat.add_assoc]⟩

theorem rests_refl (world : W) : cells.Rests world world := cells.moves_refl world

theorem moves_rest {asked : Nat} {a b c : W} {contents : ι → σ} (moves : cells.Moves asked a contents b)
    (rests : cells.Rests b c) : cells.Moves asked a contents c := by
  have still := rests moves.valid
  rw [moves.contents] at still
  exact cells.moves_trans moves still

theorem composes_leaves (places : List ι) : Composes (cells.Leaves places) := by
  refine ⟨fun _ valid => ⟨valid, fun _ _ => rfl⟩, ?_⟩
  intro a b c first second valid
  obtain ⟨middle, kept⟩ := first valid
  obtain ⟨last, later⟩ := second middle
  exact ⟨last, fun place member => (later place member).trans (kept place member)⟩

theorem composes_confined (places : List ι) : Composes (cells.Confined places) := by
  refine ⟨fun _ => ⟨fun valid => ⟨valid, fun _ _ => rfl⟩, rfl⟩, ?_⟩
  intro a b c first second
  refine ⟨?_, second.2.trans first.2⟩
  intro valid
  obtain ⟨middle, kept⟩ := first.1 valid
  obtain ⟨last, later⟩ := second.1 middle
  exact ⟨last, fun place other => (later place other).trans (kept place other)⟩

def Lasts (before after : W) : Prop :=
  (cells.valid before → cells.valid after) ∧ cells.asked after = cells.asked before

theorem composes_lasts : Composes cells.Lasts :=
  ⟨fun _ => ⟨id, rfl⟩, fun _ _ _ first second => ⟨second.1 ∘ first.1, second.2.trans first.2⟩⟩

theorem lasts_of_confined (places : List ι) (before after : W) (confined : cells.Confined places before after) :
    cells.Lasts before after :=
  ⟨fun valid => (confined.1 valid).1, confined.2⟩

theorem leaves_of_confined (place other : ι) (apart : other ≠ place) (before after : W)
    (confined : cells.Confined [place] before after) : cells.Leaves [other] before after := by
  intro valid
  obtain ⟨later, kept⟩ := confined.1 valid
  exact ⟨later, List.forall_mem_singleton.mpr (kept other (by simpa using apart))⟩

theorem written_stable (key : K) (value : V) (places : List ι) (contents : ι → σ)
    (answers : List (Except CacheError Unit)) (before after : W)
    (written : cells.Written key value places contents answers before) (leaves : cells.Leaves places before after) :
    cells.Written key value places contents answers after := by
  obtain ⟨valid, answered, reads⟩ := written
  obtain ⟨later, kept⟩ := leaves valid
  exact ⟨later, answered, fun place member => (kept place member).trans (reads place member)⟩

theorem written_each (key : K) (value : V) (places : List ι) (contents : ι → σ) (answers : List (Except CacheError Unit))
    (now : W) (valid : cells.valid now)
    (each : List.Forall₂ (fun place answer => cells.Written key value [place] contents [answer] now) places answers) :
    cells.Written key value places contents answers now := by
  induction each with
  | nil => exact ⟨valid, rfl, List.forall_mem_nil _⟩
  | cons written rest ih =>
      obtain ⟨_, first, reads⟩ := written
      obtain ⟨_, others, further⟩ := ih
      refine ⟨valid, ?_, List.forall_mem_cons.mpr ⟨reads _ List.mem_cons_self, further⟩⟩
      rw [others, List.cons.inj first |>.1]
      rfl

def footing (key : K) (value : V) (contents : ι → σ) : Footing ι (Context W) (Except CacheError Unit) where
  relies := fun place => InvImage (cells.Leaves [place]) Context.world
  keeps := fun place => Uncounted (cells.Confined [place])
  ends := fun place answer now => cells.Written key value [place] contents [answer] now.world

theorem footing_apart (key : K) (value : V) (contents : ι → σ) : (cells.footing key value contents).Apart where
  relies := fun place => composes_image Context.world (cells.composes_leaves [place])
  keeps := fun place => composes_uncounted (cells.composes_confined [place])
  away := fun place other different _ _ step => cells.leaves_of_confined place other different _ _ step.1
  stable := fun place answer _ _ ended relied => cells.written_stable key value [place] contents [answer] _ _ ended relied

section Cell

variable [DecidableEq ι]

def afterGet (place : ι) (key : K) (contents : ι → σ) : ι → σ :=
  Function.update contents place (cells.get place key (contents place)).2

def afterPut (place : ι) (key : K) (value : V) (contents : ι → σ) : ι → σ :=
  Function.update contents place (cells.put place key value (contents place)).2

def written (key : K) (value : V) (places : List ι) (contents : ι → σ) : ι → σ := fun place =>
  if place ∈ places then (cells.put place key value (contents place)).2 else contents place

def Keeps (place : ι) (key : K) (told : Lookup V) (before : W) (kept : Lookup V × W) : Prop :=
  match told with
  | .ok (some value) =>
    kept.1 = (cells.put place key value (cells.contents before place)).1.map (fun _ => some value) ∧
      cells.Moves 0 before (cells.afterPut place key value (cells.contents before)) kept.2
  | told => kept.1 = told ∧ cells.Moves 0 before (cells.contents before) kept.2

def Consults (place : ι) (key : K) (before : W) : Consult W V → Prop
  | .answer outcome after =>
    outcome = (cells.get place key (cells.contents before place)).1 ∧ outcome ≠ .ok none ∧
      cells.Moves 0 before (cells.afterGet place key (cells.contents before)) after
  | .ask resume after =>
    (cells.get place key (cells.contents before place)).1 = .ok none ∧
      cells.Moves 0 before (cells.afterGet place key (cells.contents before)) after ∧
      ∀ told later, cells.valid later → cells.contents later place = cells.contents after place →
        cells.Keeps place key told later (resume told later)

-- The suspending forms do to the cell what the blocking ones do to it.
structure Runs (place : ι) (tier : Tier W K V) : Prop where
  get : ∀ key world, cells.valid world →
    (tier.get key world).1 = (cells.get place key (cells.contents world place)).1 ∧
      cells.Moves 0 world (cells.afterGet place key (cells.contents world)) (tier.get key world).2
  put : ∀ key value world, cells.valid world →
    (tier.put key value world).1 = (cells.put place key value (cells.contents world place)).1 ∧
      cells.Moves 0 world (cells.afterPut place key value (cells.contents world)) (tier.put key value world).2
  compute : ∀ key world, cells.valid world → cells.Consults place key world (tier.computeIfAbsent key world)
  getAsync : ∀ key world, cells.valid world →
    ((tier.getAsync key).run world).1 = (cells.get place key (cells.contents world place)).1 ∧
      cells.Moves 0 world (cells.afterGet place key (cells.contents world)) ((tier.getAsync key).run world).2
  putAsync : ∀ key value world, cells.valid world →
    Poll.Abides (cells.Leaves [place]) (cells.Confined [place])
      (fun answer now => cells.Written key value [place] (cells.contents world) [answer] now) world
      (tier.putAsync key value world)

-- What is relied on of a tier that is only called in the suspending forms.
structure RunsLate (place : ι) (tier : Tier W K V) : Prop where
  getAsync : ∀ key world, cells.valid world →
    ((tier.getAsync key).run world).1 = (cells.get place key (cells.contents world place)).1 ∧
      cells.Moves 0 world (cells.afterGet place key (cells.contents world)) ((tier.getAsync key).run world).2
  putAsync : ∀ key value world, cells.valid world →
    Poll.Abides (cells.Leaves [place]) (cells.Confined [place])
      (fun answer now => cells.Written key value [place] (cells.contents world) [answer] now) world
      (tier.putAsync key value world)

theorem runs_late (places : List ι) (tiers : List (Tier W K V)) (stack : List.Forall₂ cells.Runs places tiers) :
    List.Forall₂ cells.RunsLate places tiers :=
  stack.imp fun _ _ runs => ⟨runs.getAsync, runs.putAsync⟩

theorem keep_keeps (put : K → V → W → Except CacheError Unit × W) (place : ι) (key : K) (told : Lookup V) (before : W)
    (valid : cells.valid before)
    (puts : ∀ value, (put key value before).1 = (cells.put place key value (cells.contents before place)).1 ∧
      cells.Moves 0 before (cells.afterPut place key value (cells.contents before)) (put key value before).2) :
    cells.Keeps place key told before (Tier.keep put key told before) := by
  cases told with
  | error error => exact ⟨rfl, cells.moves_refl before valid⟩
  | ok found =>
      cases found with
      | none => exact ⟨rfl, cells.moves_refl before valid⟩
      | some value =>
          obtain ⟨answered, moves⟩ := puts value
          rw [Keeps, ← answered, Tier.keep]
          rcases ended : put key value before with ⟨answer, after⟩
          rw [ended] at moves
          cases answer with
          | error error => exact ⟨rfl, moves⟩
          | ok done => exact ⟨rfl, moves⟩

theorem get_then_put_consults (get : K → W → Lookup V × W) (put : K → V → W → Except CacheError Unit × W)
    (place : ι) (key : K) (before : W)
    (gets : (get key before).1 = (cells.get place key (cells.contents before place)).1 ∧
      cells.Moves 0 before (cells.afterGet place key (cells.contents before)) (get key before).2)
    (puts : ∀ value world, cells.valid world →
      (put key value world).1 = (cells.put place key value (cells.contents world place)).1 ∧
        cells.Moves 0 world (cells.afterPut place key value (cells.contents world)) (put key value world).2) :
    cells.Consults place key before (Tier.getThenPut get put key before) := by
  rw [Tier.getThenPut]
  rcases ended : get key before with ⟨answer, after⟩
  rw [ended] at gets
  obtain ⟨answered, moves⟩ := gets
  cases answer with
  | error error => exact ⟨answered, by simp, moves⟩
  | ok found =>
      cases found with
      | some value => exact ⟨answered, by simp, moves⟩
      | none =>
          refine ⟨answered.symm, moves, ?_⟩
          intro told later valid _
          exact cells.keep_keeps put place key told later valid (fun value => puts value later valid)

theorem put_writes (key : K) (value : V) (place : ι) (tier : Tier W K V) (contents : ι → σ) (context : Context W)
    (runs : cells.RunsLate place tier) (valid : cells.valid context.world)
    (reads : cells.contents context.world place = contents place) :
    Poll.Abides ((cells.footing key value contents).relies place) ((cells.footing key value contents).keeps place)
      ((cells.footing key value contents).ends place) context ((tier.putAsync key value).onWorld context) := by
  have alone := Job.on_world_uncounted (runs.putAsync key value context.world valid)
  refine Poll.abides_mono alone (fun _ _ step => step) (fun _ _ step => step) ?_
  intro answer now written
  simpa only [footing, Written, answers, List.map_cons, List.map_nil, List.forall_mem_singleton, reads] using written

end Cell

end Cells

end CacheTiers
