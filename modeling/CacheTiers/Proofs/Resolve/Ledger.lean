import CacheTiers.Proofs.Job.Apart
import CacheTiers.Proofs.Metrics.Growth
import CacheTiers.Proofs.Resolve.Restraint

namespace CacheTiers

variable {W C K V R E A : Type}

namespace Act

def place? : Act V A → Option Nat
  | .reads place | .read place _ | .writes place _ | .wrote place _ => some place
  | .asks | .gave _ => none

def isAt (place : Nat) (act : Act V A) : Bool := act.place? = some place

def outcomes (value : V) : Nat → List (Except CacheError Unit) → List (Act V A)
  | _, [] => []
  | place, answer :: rest => .writes place value :: .wrote place answer :: outcomes value (place + 1) rest

-- How an entry is counted, where a write that succeeds is one `taken` and a write that fails is one `lost`, if anything.
def counted (operation : String) (names : Nat → String) (taken : Event) (lost : Option Event) : Act V A → List Counter
  | .read place (.ok none) => [⟨operation, names place, .miss⟩]
  | .read place (.ok (some _)) => [⟨operation, names place, .hit⟩]
  | .wrote place answer => Resolve.written operation taken lost (names place) answer
  | .asks => [.origin operation]
  | _ => []

-- Entries that all have a place are told, up to their order, by what they are place by place.
theorem perm_of_places {first second : List (Act V A)} (placed : ∀ act ∈ first, act.place? ≠ none)
    (also : ∀ act ∈ second, act.place? ≠ none) (same : ∀ place, first.filter (isAt place) = second.filter (isAt place)) :
    first.Perm second := by
  classical
  rw [List.perm_iff_count]
  intro act
  cases here : act.place? with
  | none =>
      rw [List.count_eq_zero_of_not_mem fun member => placed act member here,
        List.count_eq_zero_of_not_mem fun member => also act member here]
  | some place =>
      have mine : isAt place act = true := by simp [isAt, here]
      rw [← List.count_filter mine, same place, List.count_filter mine]

theorem mem_outcomes (value : V) (place : Nat) (answers : List (Except CacheError Unit)) (act : Act V A) :
    act ∈ outcomes value place answers ↔ ∃ spot answer, answers[spot]? = some answer ∧
      (act = .writes (place + spot) value ∨ act = .wrote (place + spot) answer) := by
  induction answers generalizing place with
  | nil => simp [outcomes]
  | cons first rest ih =>
      rw [outcomes, List.mem_cons, List.mem_cons, ih (place + 1)]
      constructor
      · rintro (rfl | rfl | ⟨spot, answer, found, shown⟩)
        · exact ⟨0, first, rfl, .inl rfl⟩
        · exact ⟨0, first, rfl, .inr rfl⟩
        · rw [Nat.add_assoc, Nat.add_comm 1] at shown
          exact ⟨spot + 1, answer, found, shown⟩
      · rintro ⟨spot, answer, found, shown⟩
        cases spot with
        | zero =>
            cases found
            exact shown.elim .inl fun wrote => .inr (.inl wrote)
        | succ spot =>
            rw [Nat.add_comm spot, ← Nat.add_assoc] at shown
            exact .inr (.inr ⟨spot, answer, found, shown⟩)

theorem outcomes_placed (value : V) (place : Nat) (answers : List (Except CacheError Unit)) :
    ∀ act ∈ (outcomes value place answers : List (Act V A)), act.place? ≠ none := by
  intro act member
  obtain ⟨spot, answer, _, rfl | rfl⟩ := (mem_outcomes value place answers act).mp member
  · simp [place?]
  · simp [place?]

theorem outcomes_cons_filter (value : V) (place spot : Nat) (answer : Except CacheError Unit)
    (rest : List (Except CacheError Unit)) :
    (outcomes value place (answer :: rest) : List (Act V A)).filter (isAt spot) =
      (if place = spot then [.writes place value, .wrote place answer] else []) ++
        (outcomes value (place + 1) rest).filter (isAt spot) := by
  by_cases same : place = spot
  · rw [outcomes, List.filter_cons_of_pos (by simpa [isAt, place?] using same),
      List.filter_cons_of_pos (by simpa [isAt, place?] using same), if_pos same]
    rfl
  · rw [outcomes, List.filter_cons_of_neg (by simpa [isAt, place?] using same),
      List.filter_cons_of_neg (by simpa [isAt, place?] using same), if_neg same]
    rfl

theorem outcomes_elsewhere (value : V) (place spot : Nat) (answers : List (Except CacheError Unit))
    (outside : spot < place ∨ place + answers.length ≤ spot) :
    (outcomes value place answers : List (Act V A)).filter (isAt spot) = [] := by
  induction answers generalizing place with
  | nil => rfl
  | cons answer rest ih =>
      rw [List.length_cons] at outside
      rw [outcomes_cons_filter, if_neg (by omega), List.nil_append]
      exact ih (place + 1) (by omega)

theorem outcomes_filter (value : V) (more : List (Act V A)) (place : Nat) (answers : List (Except CacheError Unit))
    (written : List.Forall₂ (fun spot answer => more.filter (isAt spot) = [.writes spot value, .wrote spot answer])
      (List.range' place answers.length) answers) (spot : Nat) (above : place ≤ spot)
    (below : spot < place + answers.length) :
    more.filter (isAt spot) = (outcomes value place answers).filter (isAt spot) := by
  induction answers generalizing place with
  | nil => exact absurd below (by simpa using above)
  | cons answer rest ih =>
      rw [List.length_cons, List.range'_succ] at written
      rw [List.length_cons] at below
      cases written with
      | cons first others =>
          rw [outcomes_cons_filter]
          by_cases here : place = spot
          · subst here
            rw [first, if_pos rfl, outcomes_elsewhere value (place + 1) place rest (.inl (Nat.lt_succ_self place))]
            rfl
          · rw [if_neg here, List.nil_append]
            exact ih (place + 1) others (by omega) (by omega)

def Fills (placed : Act V A → Prop) (before after : Context (Watched W V A)) : Prop :=
  (∃ more, after.world.trail = before.world.trail ++ more ∧ ∀ act ∈ more, placed act) ∧ after.metrics = before.metrics

theorem composes_fills (placed : Act V A → Prop) :
    Composes (Fills placed : Context (Watched W V A) → Context (Watched W V A) → Prop) := by
  refine ⟨fun context => ⟨⟨[], (List.append_nil _).symm, List.forall_mem_nil _⟩, rfl⟩, ?_⟩
  rintro first second third ⟨⟨early, longer, before⟩, still⟩ ⟨⟨late, further, after⟩, same⟩
  refine ⟨⟨early ++ late, by rw [further, longer, List.append_assoc], ?_⟩, same.trans still⟩
  intro act member
  rcases List.mem_append.mp member with old | new
  · exact before act old
  · exact after act new

-- Writing a value to places, each of which has in the trail only what it did itself.
def footing (value : V) (base : List (Act V A)) : Footing Nat (Context (Watched W V A)) (Except CacheError Unit) where
  relies := fun place before after => after.world.trail.filter (isAt place) = before.world.trail.filter (isAt place)
  keeps := fun place => Fills fun act => act.place? = some place
  ends := fun place answer now =>
    now.world.trail.filter (isAt place) = base.filter (isAt place) ++ [Act.writes place value, .wrote place answer]

theorem footing_apart (value : V) (base : List (Act V A)) : (footing (W := W) value base).Apart where
  relies := fun place => ⟨fun _ => rfl, fun _ _ _ first second => second.trans first⟩
  keeps := fun place => composes_fills _
  away := by
    rintro place other different before after ⟨⟨more, longer, mine⟩, _⟩
    have none : more.filter (isAt other) = [] := by
      rw [List.filter_eq_nil_iff]
      intro act member
      rw [isAt, mine act member]
      simpa using Ne.symm different
    simp only [footing, longer, List.filter_append, none, List.append_nil]
  stable := fun place answer before after ended relied => relied.trans ended

theorem put_abides (value : V) (place : Nat) (base trail : List (Act V A)) (poll : Poll W (Except CacheError Unit))
    (first : Context (Watched W V A))
    (begun : ∃ more, trail = first.world.trail ++ more ∧ ∀ act ∈ more, act.place? = some place)
    (here : trail.filter (isAt place) = base.filter (isAt place) ++ [Act.writes place value]) :
    Poll.Abides ((footing value base).relies place) ((footing value base).keeps place) ((footing value base).ends place) first
      ((poll.watched (.wrote place) trail).besides first.metrics) := by
  induction poll generalizing trail first with
  | ready answer world =>
      obtain ⟨more, rfl, mine⟩ := begun
      refine ⟨⟨⟨more ++ [Act.wrote place answer], by simp, ?_⟩, rfl⟩, ?_⟩
      · intro act member
        rcases List.mem_append.mp member with old | new
        · exact mine act old
        · rw [List.mem_singleton.mp new]
          rfl
      · have own : isAt place (.wrote place answer : Act V A) = true := by simp [isAt, place?]
        simp only [footing, List.filter_append _ [_], here, List.filter_cons_of_pos own, List.filter_nil]
        simp
  | pending rest world ih =>
      refine ⟨⟨begun, rfl⟩, ?_⟩
      intro later relied
      refine ih later.world.world later.world.trail later ⟨[], (List.append_nil _).symm, List.forall_mem_nil _⟩ ?_
      exact relied.trans here

end Act

namespace Resolve

theorem mem_written {value : V} {answers : List (Except CacheError Unit)} {more : List (Act V A)}
    (written : more.Perm (Act.outcomes value 0 answers)) (act : Act V A) :
    act ∈ more ↔ ∃ place answer, answers[place]? = some answer ∧ (act = .writes place value ∨ act = .wrote place answer) := by
  simpa using written.mem_iff.trans (Act.mem_outcomes value 0 answers act)

theorem answered_of_wrote {value : V} {answers : List (Except CacheError Unit)} {more : List (Act V A)}
    (written : more.Perm (Act.outcomes value 0 answers)) (place : Nat) (answer : Except CacheError Unit)
    (wrote : .wrote place answer ∈ more) : answers[place]? = some answer := by
  obtain ⟨spot, given, found, shape⟩ := (mem_written written _).mp wrote
  simp only [reduceCtorEq, Act.wrote.injEq, false_or] at shape
  rw [shape.1, shape.2, found]

theorem watched_puts_apart (key : K) (value : V) (place : Nat) (tiers : List (Tier W K V)) (start : Context (Watched W V A)) :
    List.Forall₂ (fun spot job => ∀ later, (Act.footing value start.world.trail).relies spot start later →
      Poll.Abides ((Act.footing value start.world.trail).relies spot) ((Act.footing value start.world.trail).keeps spot)
        ((Act.footing value start.world.trail).ends spot) later (job later))
      (List.range' place tiers.length)
      ((watchedFrom place tiers).map fun tier => (tier.putAsync key value).onWorld) := by
  induction tiers generalizing place with
  | nil => exact .nil
  | cons tier rest ih =>
      rw [List.length_cons, List.range'_succ, watchedFrom, List.map_cons]
      refine .cons ?_ (ih (place + 1))
      intro later relied
      have own : Act.isAt place (.writes place value : Act V A) = true := by simp [Act.isAt, Act.place?]
      apply Act.put_abides
      · exact ⟨[.writes place value], rfl, by simp [Act.place?]⟩
      · rw [List.filter_append, relied, List.filter_cons_of_pos own, List.filter_nil]

-- Writes that are issued together end, up to the order in the trail, as writes in order do.
theorem write_all_outcomes (operation : String) (onSuccess : Event) (onFailure : Option Event) (key : K) (value : V)
    (tiers : List (Tier W K V)) (context : Context (Watched W V A)) :
    ∃ answers more after, answers.length = tiers.length ∧ after.world.trail = context.world.trail ++ more ∧
      more.Perm (Act.outcomes value 0 answers) ∧ after.metrics = context.metrics ∧
      (writeAll operation onSuccess onFailure key value (watchedFrom 0 tiers)).run context =
        (answers, settle operation onSuccess onFailure ((watchedFrom 0 tiers).zip answers) after) := by
  have apart := Act.footing_apart (W := W) value context.world.trail
  have composes := Act.composes_fills (W := W) (V := V) (A := A) fun act => act.place? ≠ none
  have placed (place : Nat) (before after : Context (Watched W V A))
      (fills : Act.Fills (fun act => act.place? = some place) before after) :
      Act.Fills (fun act => act.place? ≠ none) before after := by
    obtain ⟨⟨more, longer, mine⟩, still⟩ := fills
    exact ⟨⟨more, longer, fun act member => by simp [mine act member]⟩, still⟩
  have ran := Job.run_all_apart apart composes (List.range' 0 tiers.length) _ context (List.nodup_range' ..)
    (fun place _ => placed place) (watched_puts_apart key value 0 tiers context)
  rw [writeAll, Job.run_bind, Job.run_bind, Job.run_modify, Job.run_pure]
  generalize (Job.all ((watchedFrom 0 tiers).map fun tier => (tier.putAsync key value).onWorld)).run context = result at ran
  obtain ⟨answers, after⟩ := result
  obtain ⟨⟨⟨⟨more, longer, written⟩, still⟩, away⟩, ended⟩ := ran
  have count : answers.length = tiers.length := by
    rw [← ended.length_eq, List.length_range']
  have added (place : Nat) : after.world.trail.filter (Act.isAt place) =
      context.world.trail.filter (Act.isAt place) ++ more.filter (Act.isAt place) :=
    (congrArg (List.filter (Act.isAt place)) longer).trans (List.filter_append ..)
  refine ⟨answers, more, after, count, longer, ?_, still, rfl⟩
  apply Act.perm_of_places written (Act.outcomes_placed value 0 answers)
  have each : List.Forall₂ (fun spot answer => more.filter (Act.isAt spot) = [.writes spot value, .wrote spot answer])
      (List.range' 0 answers.length) answers := by
    rw [count]
    refine ended.imp ?_
    intro spot answer ends
    exact List.append_cancel_left ((added spot).symm.trans ends)
  intro place
  by_cases within : place < answers.length
  · exact Act.outcomes_filter value more 0 answers each place (Nat.zero_le place) (by simpa using within)
  · have outside : place ∉ List.range' 0 tiers.length := by
      simpa [← count] using within
    rw [Act.outcomes_elsewhere value 0 place answers (.inr (by simpa using within))]
    exact List.append_cancel_left ((added place).symm.trans ((away place outside).trans (List.append_nil _).symm))

section Counts

variable {names : Nat → String} {operation : String} {taken : Event} {lost : Option Event}

def Named (names : Nat → String) (place : Nat) (tiers : List (Tier W K V)) : Prop :=
  ∀ spot tier, tiers[spot]? = some tier → names (place + spot) = tier.name

theorem named_cons {place : Nat} {tier : Tier W K V} {rest : List (Tier W K V)} (named : Named names place (tier :: rest)) :
    names place = tier.name ∧ Named names (place + 1) rest := by
  refine ⟨named 0 tier rfl, ?_⟩
  intro spot other found
  rw [Nat.add_assoc, Nat.add_comm 1]
  exact named (spot + 1) other found

theorem named_take {place count : Nat} {tiers : List (Tier W K V)} (named : Named names place tiers) :
    Named names place (tiers.take count) := by
  intro spot tier found
  rw [List.getElem?_take] at found
  split at found
  · exact named spot tier found
  · cases found

-- That what was counted up to here is what the trail up to here is counted as.
def Tallied (operation : String) (names : Nat → String) (taken : Event) (lost : Option Event) (start : Metrics)
    (context : Context (Watched W V A)) : Prop :=
  Metrics.Grows (context.world.trail.flatMap (Act.counted operation names taken lost)) [] start context.metrics

theorem tallied_more {start : Metrics} {before after : Context (Watched W V A)} {more : List (Act V A)}
    (tallied : Tallied operation names taken lost start before) (longer : after.world.trail = before.world.trail ++ more)
    (grows : Metrics.Grows (more.flatMap (Act.counted operation names taken lost)) [] before.metrics after.metrics) :
    Tallied operation names taken lost start after := by
  rw [Tallied, longer, List.flatMap_append]
  exact Metrics.grows_trans tallied grows

theorem read_tallied {start : Metrics} {context : Context (Watched W V A)} (place : Nat) (name : String)
    (named : names place = name) (answer : Lookup V) (after : W)
    (tallied : Tallied operation names taken lost start context) :
    Tallied operation names taken lost start
      (let read := ⟨⟨after, context.world.trail ++ [Act.reads place, .read place answer]⟩, context.metrics⟩
      match answer with
      | .error _ => read
      | .ok (some _) => Context.record operation name .hit read
      | .ok none => Context.record operation name .miss read) := by
  cases answer with
  | error error => exact tallied_more tallied rfl (Metrics.grows_refl _)
  | ok found =>
      cases found with
      | some value =>
          refine tallied_more tallied rfl ?_
          simp only [List.flatMap_cons, List.flatMap_nil, Act.counted, named]
          exact Metrics.record_grows context.metrics ⟨operation, name, .hit⟩
      | none =>
          refine tallied_more tallied rfl ?_
          simp only [List.flatMap_cons, List.flatMap_nil, Act.counted, named]
          exact Metrics.record_grows context.metrics ⟨operation, name, .miss⟩

theorem search_tallied (operation : String) (taken : Event) (lost : Option Event) {start : Metrics} (key : K) (place : Nat)
    (nearer : List (Tier (Watched W V A) K V)) (tiers : List (Tier W K V)) (context : Context (Watched W V A))
    (named : Named names place tiers)
    (tallied : Tallied operation names taken lost start context) :
    Tallied operation names taken lost start (search operation key nearer (watchedFrom place tiers) context).2 := by
  induction tiers generalizing place nearer context with
  | nil => exact tallied
  | cons tier rest ih =>
      obtain ⟨here, others⟩ := named_cons named
      have counted := read_tallied place tier.name here (tier.get key context.world.world).1
        (tier.get key context.world.world).2 tallied
      have read : context.onWorld ((tier.watched place).get key) = _ :=
        Watched.on_world_act (.reads place) (.read place) (tier.get key) context
      rw [watchedFrom, search, read]
      generalize tier.get key context.world.world = got at counted ⊢
      obtain ⟨answer, after⟩ := got
      cases answer with
      | error error => exact counted
      | ok found =>
          cases found with
          | some value => exact counted
          | none => exact ih (place + 1) _ _ others counted

theorem search_async_tallied (operation : String) (taken : Event) (lost : Option Event) {start : Metrics} (key : K)
    (place : Nat) (nearer : List (Tier (Watched W V A) K V)) (tiers : List (Tier W K V)) (context : Context (Watched W V A))
    (named : Named names place tiers)
    (tallied : Tallied operation names taken lost start context) :
    Tallied operation names taken lost start
      ((searchAsync operation key nearer (watchedFrom place tiers)).run context).2 := by
  induction tiers generalizing place nearer context with
  | nil => exact tallied
  | cons tier rest ih =>
      obtain ⟨here, others⟩ := named_cons named
      have counted := read_tallied place tier.name here ((tier.getAsync key).run context.world.world).1
        ((tier.getAsync key).run context.world.world).2 tallied
      have read : ((tier.watched place).getAsync key).run context.world = _ :=
        Job.run_watched (.reads place) (.read place) (tier.getAsync key) context.world
      rw [watchedFrom, searchAsync, Job.run_bind, Job.run_on_world, read]
      generalize (tier.getAsync key).run context.world.world = got at counted ⊢
      obtain ⟨answer, after⟩ := got
      cases answer with
      | error error => exact counted
      | ok found =>
          cases found with
          | some value => exact counted
          | none => exact ih (place + 1) _ _ others counted

theorem fill_outcomes (operation : String) (taken : Event) (key : K) (value : V) (place : Nat) (tiers : List (Tier W K V))
    (context : Context (Watched W V A)) (named : Named names place tiers) :
    ∃ answers, answers.length ≤ tiers.length ∧
      let ended := fill operation taken key value (watchedFrom place tiers) context
      ended.2.world.trail = context.world.trail ++ Act.outcomes value place answers ∧
        Metrics.Grows ((Act.outcomes value place answers : List (Act V A)).flatMap (Act.counted operation names taken none)) []
          context.metrics ended.2.metrics := by
  induction tiers generalizing place context with
  | nil => exact ⟨[], Nat.le_refl _, (List.append_nil _).symm, Metrics.grows_refl _⟩
  | cons tier rest ih =>
      obtain ⟨here, others⟩ := named_cons named
      have put : context.onWorld ((tier.watched place).put key value) = _ :=
        Watched.on_world_act (.writes place value) (.wrote place) (tier.put key value) context
      rw [watchedFrom, fill, put]
      rcases tier.put key value context.world.world with ⟨answer, after⟩
      cases answer with
      | error error => exact ⟨[.error error], by simp, rfl, Metrics.grows_refl _⟩
      | ok done =>
          obtain ⟨answers, fits, longer, grows⟩ := ih (place + 1) (Context.record operation tier.name taken
            ⟨⟨after, context.world.trail ++ [Act.writes place value, .wrote place (.ok ())]⟩, context.metrics⟩) others
          refine ⟨.ok () :: answers, by simpa using fits, ?_, ?_⟩
          · exact longer.trans (by simp [Context.record, Act.outcomes])
          · have counted := Metrics.grows_trans (Metrics.record_grows context.metrics ⟨operation, tier.name, taken⟩) grows
            simp only [Act.outcomes, List.flatMap_cons, Act.counted, written, here]
            exact counted

theorem settle_outcomes (value : V) (place : Nat) (tiers : List (Tier W K V)) (answers : List (Except CacheError Unit))
    (named : Named names place tiers) (all : answers.length = tiers.length) :
    ((watchedFrom place tiers : List (Tier (Watched W V A) K V)).zip answers).flatMap
        (fun outcome => written operation taken lost outcome.1.name outcome.2) =
      (Act.outcomes value place answers : List (Act V A)).flatMap (Act.counted operation names taken lost) := by
  induction tiers generalizing place answers with
  | nil =>
      obtain rfl := List.length_eq_zero_iff.mp all
      rfl
  | cons tier rest ih =>
      obtain ⟨here, others⟩ := named_cons named
      cases answers with
      | nil => cases all
      | cons answer answers =>
          have onward := ih (place + 1) answers others (Nat.succ.inj all)
          simp only [watchedFrom, List.zip_cons_cons, List.flatMap_cons, Act.outcomes, Act.counted, List.nil_append, onward,
            here]
          rfl

theorem write_all_counted (operation : String) (taken : Event) (lost : Option Event) (key : K) (value : V)
    (tiers : List (Tier W K V)) (context : Context (Watched W V A)) (named : Named names 0 tiers) :
    ∃ answers more, answers.length = tiers.length ∧ more.Perm (Act.outcomes value 0 answers) ∧
      let ended := (writeAll operation taken lost key value (watchedFrom 0 tiers)).run context
      ended.1 = answers ∧ ended.2.world.trail = context.world.trail ++ more ∧
        Metrics.Grows (more.flatMap (Act.counted operation names taken lost)) [] context.metrics ended.2.metrics := by
  obtain ⟨answers, more, after, all, longer, perm, still, ran⟩ :=
    write_all_outcomes operation taken lost key value tiers context
  refine ⟨answers, more, all, perm, ?_⟩
  rw [ran]
  have grows := settle_grows operation taken lost ((watchedFrom 0 tiers).zip answers) after
  rw [settle_outcomes value 0 tiers answers named all, still] at grows
  exact ⟨rfl, by rw [settle_world, longer], Metrics.grows_perm grows (perm.symm.flatMap_right _)⟩

end Counts

end Resolve

end CacheTiers
