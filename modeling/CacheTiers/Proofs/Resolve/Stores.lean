import CacheTiers.Proofs.Resolve.Ledger
import Mathlib.Logic.Function.Basic

namespace CacheTiers

variable {W K V R E A B : Type}

namespace Holdings

variable (holdings : Holdings W (Nat → K → Option V))

def Spares (spared : Nat → Prop) (before after : W) : Prop :=
  holdings.valid before →
    holdings.valid after ∧ ∀ place, spared place → holdings.contents after place = holdings.contents before place

def Leaves (place : Nat) : W → W → Prop := holdings.Spares (· = place)

def Confined (place : Nat) : W → W → Prop := holdings.Spares (· ≠ place)

theorem composes_spares (spared : Nat → Prop) : Composes (holdings.Spares spared) := by
  constructor
  · exact fun world valid => ⟨valid, fun _ _ => rfl⟩
  · intro first second third before after valid
    obtain ⟨middle, same⟩ := before valid
    obtain ⟨last, also⟩ := after middle
    exact ⟨last, fun place among => (also place among).trans (same place among)⟩

theorem leaves_of_confined {place other : Nat} {before after : W} (away : other ≠ place)
    (confined : holdings.Confined place before after) : holdings.Leaves other before after := by
  intro valid
  obtain ⟨lawful, same⟩ := confined valid
  refine ⟨lawful, ?_⟩
  rintro spot rfl
  exact same spot away

end Holdings

section Law

variable [DecidableEq K]

-- What a place holds once a value was written to it, by the answer that the write gave.
def taken (key : K) (value : V) : Except CacheError Unit → (K → Option V) → K → Option V
  | .ok _, held => Function.update held key (some value)
  | .error _, held => held

namespace Holdings

variable (holdings : Holdings W (Nat → K → Option V))

def Took (place : Nat) (key : K) (value : V) (start : W) (answer : Except CacheError Unit) (now : W) : Prop :=
  holdings.valid now ∧ holdings.contents now place = taken key value answer (holdings.contents start place)

structure Stores (place : Nat) (tier : Tier W K V) : Prop where
  get : ∀ key world, holdings.Still world (tier.get key world).2
  put : ∀ key value world, holdings.valid world →
    holdings.Confined place world (tier.put key value world).2 ∧
      holdings.Took place key value world (tier.put key value world).1 (tier.put key value world).2

-- The same of the suspending calls. While a write is suspended others may do what they like in other places.
structure StoresLate (place : Nat) (tier : Tier W K V) : Prop where
  getAsync : ∀ key world, holdings.Still world ((tier.getAsync key).run world).2
  putAsync : ∀ key value world, holdings.valid world →
    Poll.Abides (holdings.Leaves place) (holdings.Confined place) (holdings.Took place key value world) world
      (tier.putAsync key value world)

def Filled (key : K) (value : V) (place count : Nat) (before after : W) : Prop :=
  holdings.valid after ∧
    (∀ spot, place ≤ spot → spot < place + count →
      holdings.contents after spot = Function.update (holdings.contents before spot) key (some value)) ∧
    ∀ spot, spot < place ∨ place + count ≤ spot → holdings.contents after spot = holdings.contents before spot

theorem filled_none (key : K) (value : V) (place : Nat) {before after : W} (unmoved : holdings.Unmoved before after) :
    holdings.Filled key value place 0 before after :=
  ⟨unmoved.1, fun spot above below => absurd below (by simpa using above), fun spot _ => congrFun unmoved.2 spot⟩

theorem filled_more {key : K} {value : V} {place count : Nat} {before middle after : W}
    (confined : holdings.Confined place before middle) (took : holdings.Took place key value before (.ok ()) middle)
    (valid : holdings.valid before) (filled : holdings.Filled key value (place + 1) count middle after) :
    holdings.Filled key value place (count + 1) before after := by
  obtain ⟨last, inside, outside⟩ := filled
  have away := (confined valid).2
  refine ⟨last, ?_, ?_⟩
  · intro spot above below
    by_cases here : spot = place
    · rw [here, outside place (.inl (Nat.lt_succ_self place)), took.2, taken]
    · rw [inside spot (by omega) (by omega), away spot here]
  · intro spot beyond
    rw [outside spot (by omega), away spot (by omega)]

theorem unmoved_of_failed {place : Nat} {key : K} {value : V} {error : CacheError} {before after : W}
    (confined : holdings.Confined place before after) (took : holdings.Took place key value before (.error error) after)
    (valid : holdings.valid before) : holdings.Unmoved before after := by
  refine ⟨took.1, funext fun spot => ?_⟩
  by_cases here : spot = place
  · rw [here, took.2, taken]
  · exact (confined valid).2 spot here

end Holdings

end Law

section Places

def Placed (law : Nat → Tier W K V → Prop) (place : Nat) (tiers : List (Tier W K V)) : Prop :=
  ∀ spot tier, tiers[spot]? = some tier → law (place + spot) tier

variable {law : Nat → Tier W K V → Prop}

theorem placed_stack {law : Nat → Tier W K V → Prop} {tiers : List (Tier W K V)}
    (stack : ∀ place tier, tiers[place]? = some tier → law place tier) : Placed law 0 tiers := by
  intro spot tier found
  rw [Nat.zero_add]
  exact stack spot tier found

theorem placed_cons {place : Nat} {tier : Tier W K V} {rest : List (Tier W K V)} (placed : Placed law place (tier :: rest)) :
    law place tier ∧ Placed law (place + 1) rest := by
  refine ⟨placed 0 tier rfl, ?_⟩
  intro spot other found
  rw [Nat.add_assoc, Nat.add_comm 1]
  exact placed (spot + 1) other found

theorem placed_front {place : Nat} {tiers others : List (Tier W K V)} (placed : Placed law place (tiers ++ others)) :
    Placed law place tiers := by
  intro spot tier found
  have within := (List.getElem?_eq_some_iff.mp found).choose
  exact placed spot tier ((List.getElem?_append_left within).trans found)

theorem placed_mem {place : Nat} {tiers : List (Tier W K V)} (placed : Placed law place tiers) :
    ∀ tier ∈ tiers, ∃ spot, law spot tier := by
  intro tier member
  obtain ⟨spot, found⟩ := List.mem_iff_getElem?.mp member
  exact ⟨place + spot, placed spot tier found⟩

theorem placed_watched {lifted : Nat → Tier (Watched W V A) K V → Prop} {place : Nat} {tiers : List (Tier W K V)}
    (lifts : ∀ spot tier, law spot tier → lifted spot (tier.watched spot)) (placed : Placed law place tiers) :
    Placed lifted place (Resolve.watchedFrom place tiers) := by
  induction tiers generalizing place with
  | nil =>
      intro spot tier found
      cases found
  | cons first rest ih =>
      obtain ⟨here, others⟩ := placed_cons placed
      intro spot tier found
      cases spot with
      | zero =>
          cases found
          exact lifts place first here
      | succ spot =>
          have later := ih others spot tier found
          rwa [Nat.add_assoc, Nat.add_comm 1] at later

end Places

namespace Holdings

def watched (holdings : Holdings W B) : Holdings (Watched W V A) B :=
  ⟨fun now => holdings.valid now.world, fun now => holdings.contents now.world⟩

theorem watched_stores_late [DecidableEq K] (holdings : Holdings W (Nat → K → Option V)) (place : Nat) (tier : Tier W K V)
    (stores : holdings.StoresLate place tier) :
    (holdings.watched : Holdings (Watched W V A) (Nat → K → Option V)).StoresLate place (tier.watched place) where
  getAsync := by
    intro key now
    have ran := Job.run_watched (A := A) (.reads place) (.read place) (tier.getAsync key) now
    simp only [Tier.watched, ran]
    exact stores.getAsync key now.world
  putAsync := fun key value now valid =>
    Job.watched_abides (.writes place value) (.wrote place) (tier.putAsync key value) now
      (stores.putAsync key value now.world valid)

end Holdings

namespace Resolve

section InOrder

variable [DecidableEq K] (holdings : Holdings W (Nat → K → Option V))

theorem fill_stores (operation : String) (event : Event) (key : K) (value : V) (place : Nat) (tiers : List (Tier W K V))
    (context : Context (Watched W V A)) (stack : Placed holdings.Stores place tiers)
    (valid : holdings.valid context.world.world) :
    ∃ filled,
      let ended := fill operation event key value (watchedFrom place tiers) context
      holdings.Filled key value place filled context.world.world ended.2.world.world ∧
        (filled = tiers.length ∧ ended.1 = .ok () ∧
            ended.2.world.trail = context.world.trail ++ Act.outcomes value place (List.replicate filled (.ok ())) ∨
          filled < tiers.length ∧ ∃ error, ended.1 = .error error ∧ ended.2.world.trail =
            context.world.trail ++ Act.outcomes value place (List.replicate filled (.ok ()) ++ [.error error])) := by
  induction tiers generalizing place context with
  | nil =>
      exact ⟨0, holdings.filled_none key value place ⟨valid, rfl⟩, .inl ⟨rfl, rfl, (List.append_nil _).symm⟩⟩
  | cons tier rest ih =>
      obtain ⟨first, others⟩ := placed_cons stack
      obtain ⟨confined, took⟩ := first.put key value context.world.world valid
      have put : context.onWorld ((tier.watched place).put key value) = _ :=
        Watched.on_world_act (.writes place value) (.wrote place) (tier.put key value) context
      rw [watchedFrom, fill, put]
      generalize tier.put key value context.world.world = written at confined took ⊢
      obtain ⟨answer, after⟩ := written
      cases answer with
      | error error =>
          have unmoved := holdings.unmoved_of_failed confined took valid
          exact ⟨0, holdings.filled_none key value place unmoved, .inr ⟨Nat.succ_pos _, error, rfl, rfl⟩⟩
      | ok done =>
          obtain ⟨filled, reached, ends⟩ := ih (place + 1) (Context.record operation tier.name event
            ⟨⟨after, context.world.trail ++ [Act.writes place value, .wrote place (.ok ())]⟩, context.metrics⟩) others took.1
          refine ⟨filled + 1, holdings.filled_more confined took valid reached, ?_⟩
          rcases ends with ⟨all, result, longer⟩ | ⟨within, error, result, longer⟩
          · refine .inl ⟨congrArg (· + 1) all, result, longer.trans ?_⟩
            simp [Context.record, List.replicate_succ, Act.outcomes]
          · refine .inr ⟨Nat.succ_lt_succ within, error, result, longer.trans ?_⟩
            simp [Context.record, List.replicate_succ, Act.outcomes]

end InOrder

section Together

variable [DecidableEq K] (holdings : Holdings W (Nat → K → Option V))

def storing (key : K) (value : V) (start : W) : Footing Nat (Context W) (Except CacheError Unit) where
  relies := fun place => InvImage (holdings.Leaves place) Context.world
  keeps := fun place => InvImage (holdings.Confined place) Context.world
  ends := fun place answer now => holdings.Took place key value start answer now.world

theorem storing_apart (key : K) (value : V) (start : W) : (storing holdings key value start).Apart where
  relies := fun place => composes_image Context.world (holdings.composes_spares (· = place))
  keeps := fun place => composes_image Context.world (holdings.composes_spares (· ≠ place))
  away := fun _ _ different _ _ confined => holdings.leaves_of_confined different confined
  stable := fun _ _ _ _ took left => ⟨(left took.1).1, ((left took.1).2 _ rfl).trans took.2⟩

theorem puts_store (key : K) (value : V) (place : Nat) (tiers : List (Tier W K V)) (start : Context W)
    (stack : Placed holdings.StoresLate place tiers) (valid : holdings.valid start.world) :
    List.Forall₂ (fun spot job => ∀ later, (storing holdings key value start.world).relies spot start later →
      Poll.Abides ((storing holdings key value start.world).relies spot) ((storing holdings key value start.world).keeps spot)
        ((storing holdings key value start.world).ends spot) later (job later))
      (List.range' place tiers.length) (tiers.map fun tier => (tier.putAsync key value).onWorld) := by
  induction tiers generalizing place with
  | nil => exact .nil
  | cons tier rest ih =>
      obtain ⟨first, others⟩ := placed_cons stack
      rw [List.length_cons, List.range'_succ, List.map_cons]
      refine .cons ?_ (ih (place + 1) others)
      intro later left
      obtain ⟨lawful, same⟩ := left valid
      have written := Job.on_world_abides (first.putAsync key value later.world lawful)
      refine Poll.abides_mono written (fun _ _ step => step) (fun _ _ step => step) ?_
      intro answer now took
      exact ⟨took.1, took.2.trans (congrArg (taken key value answer) (same place rfl))⟩

theorem write_all_stores (operation : String) (onSuccess : Event) (onFailure : Option Event) (key : K) (value : V)
    (tiers : List (Tier W K V)) (context : Context W) (stack : Placed holdings.StoresLate 0 tiers)
    (valid : holdings.valid context.world) :
    let ended := (writeAll operation onSuccess onFailure key value tiers).run context
    holdings.valid ended.2.world ∧
      (∀ place answer, ended.1[place]? = some answer →
        holdings.contents ended.2.world place = taken key value answer (holdings.contents context.world place)) ∧
      ∀ place, ended.1.length ≤ place → holdings.contents ended.2.world place = holdings.contents context.world place := by
  obtain ⟨⟨_, away⟩, each⟩ := Job.run_all_apart (storing_apart holdings key value context.world) composes_any
    (List.range' 0 tiers.length) _ context (List.nodup_range' ..) (fun _ _ _ _ _ => trivial)
    (puts_store holdings key value 0 tiers context stack valid)
  intro ended
  have begun : ended = (writeAll operation onSuccess onFailure key value tiers).run context := rfl
  rw [writeAll, Job.run_bind, Job.run_bind, Job.run_modify, Job.run_pure] at begun
  generalize (Job.all (tiers.map fun tier => (tier.putAsync key value).onWorld)).run context = ran at away each begun
  obtain ⟨answers, after⟩ := ran
  have left (place : Nat) (outside : tiers.length ≤ place) : holdings.Leaves place context.world after.world :=
    away place (by simpa using outside)
  have count : answers.length = tiers.length := by
    rw [← each.length_eq, List.length_range']
  rw [begun, settle_world]
  refine ⟨(left tiers.length (Nat.le_refl _) valid).1, ?_, fun place outside => (left place (count ▸ outside) valid).2 place rfl⟩
  intro place answer found
  have took := each_in_range 0 tiers.length answers each place answer found
  rw [Nat.zero_add] at took
  exact took.2

theorem write_all_taken (operation : String) (onSuccess : Event) (onFailure : Option Event) (key : K) (value : V)
    (tiers : List (Tier W K V)) (context : Context (Watched W V A)) (stack : Placed holdings.StoresLate 0 tiers)
    (valid : holdings.valid context.world.world) :
    let ended := (writeAll operation onSuccess onFailure key value (watchedFrom 0 tiers)).run context
    ∃ more, ended.1.length = tiers.length ∧ ended.2.world.trail = context.world.trail ++ more ∧
      more.Perm (Act.outcomes value 0 ended.1) ∧
      (∀ place answer, ended.1[place]? = some answer →
        holdings.contents ended.2.world.world place = taken key value answer (holdings.contents context.world.world place)) ∧
      ∀ place, ended.1.length ≤ place →
        holdings.contents ended.2.world.world place = holdings.contents context.world.world place := by
  obtain ⟨answers, more, after, all, longer, perm, _, ran⟩ := write_all_outcomes operation onSuccess onFailure key value tiers
    context
  obtain ⟨_, inside, outside⟩ := write_all_stores holdings.watched operation onSuccess onFailure key value (watchedFrom 0 tiers)
    context (placed_watched (A := A) holdings.watched_stores_late stack) valid
  rw [ran] at inside outside ⊢
  refine ⟨more, all, ?_, perm, inside, outside⟩
  rw [settle_world, longer]

end Together

end Resolve

end CacheTiers
