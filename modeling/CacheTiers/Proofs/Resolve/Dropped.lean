import CacheTiers.Proofs.Resolve.Accounting
import CacheTiers.Proofs.Resolve.Unwritten
import CacheTiers.Proofs.World.Maps

namespace CacheTiers

variable {ι W C K V R E A : Type}

namespace Holdings

def Stays (holdings : Holdings W C) (before after : W) : Prop := holdings.valid before → holdings.valid after

theorem composes_stays (holdings : Holdings W C) : Composes holdings.Stays :=
  ⟨fun _ valid => valid, fun _ _ _ first second valid => second (first valid)⟩

variable [DecidableEq K] (holdings : Holdings W (ι → K → Option V))

-- Each place is as it was, or differs from what it was by one value under the key.
def Sets (key : K) (value : V) (before after : W) : Prop :=
  holdings.valid before → holdings.valid after ∧ ∀ place, holdings.contents after place = holdings.contents before place ∨
    holdings.contents after place = Function.update (holdings.contents before place) key (some value)

-- Tiers that do something only while they are polled: reading changes nothing, and what a write does up to its next
-- suspension is to set the key or nothing.
structure Polled (tier : Tier W K V) : Prop where
  getAsync : ∀ key world, holdings.valid world →
    Poll.Abides Eq holdings.Still (fun _ _ => True) world (tier.getAsync key world)
  putAsync : ∀ key value world, holdings.valid world →
    Poll.Abides holdings.Stays (holdings.Sets key value) (fun _ _ => True) world (tier.putAsync key value world)

theorem composes_sets (key : K) (value : V) : Composes (holdings.Sets key value) := by
  refine ⟨fun world valid => ⟨valid, fun place => .inl rfl⟩, ?_⟩
  intro first second third earlier later valid
  obtain ⟨middle, before⟩ := earlier valid
  obtain ⟨last, after⟩ := later middle
  refine ⟨last, ?_⟩
  intro place
  rcases after place with kept | set
  · rw [kept]
    exact before place
  · rcases before place with kept | already
    · rw [set, kept]
      exact .inr rfl
    · rw [set, already, Function.update_idem]
      exact .inr rfl

theorem sets_of_unmoved (key : K) (value : V) {start world : W} (unmoved : holdings.Unmoved start world) :
    holdings.Sets key value start world :=
  fun _ => ⟨unmoved.1, fun place => .inl (congrFun unmoved.2 place)⟩

theorem writes_set (operation : String) (onSuccess : Event) (onFailure : Option Event) (key : K) (value : V)
    (tiers : List (Tier W K V)) (start : W) (context : Context (Watched W V A))
    (polled : ∀ tier ∈ tiers, holdings.Polled tier) (unmoved : holdings.Unmoved start context.world.world) :
    (Resolve.writeAll operation onSuccess onFailure key value (Resolve.watchedFrom 0 tiers) context).Stops
      (fun now => holdings.Sets key value start now.world.world)
      fun _ now => holdings.Sets key value start now.world.world := by
  have composes := holdings.composes_sets key value
  have reaches := Resolve.write_all_reaches (composes_image Watched.world holdings.composes_stays)
    (composes_image Watched.world composes) (fun _ _ sets valid => (sets valid).1) operation onSuccess onFailure key value
    (Resolve.watchedFrom 0 tiers) context (by
      intro tier member now stays
      obtain ⟨place, original, among, rfl⟩ := Resolve.mem_watched_from 0 tiers tier member
      exact Job.watched_abides _ _ _ now ((polled original among).putAsync key value now.world (stays unmoved.1)))
  have begun := holdings.sets_of_unmoved key value unmoved
  exact Poll.stops_mono (Poll.stops_of_reaches reaches) (fun _ sets => composes.trans _ _ _ begun sets)
    fun _ _ sets => composes.trans _ _ _ begun sets

end Holdings

def View.holdings (view : View ι W K V) : Holdings W (ι → K → Option V) :=
  ⟨view.valid, fun world place => view.held place world⟩

theorem View.holdings_still (view : View ι W K V) {before after : W} (rests : view.Rests before after) :
    view.holdings.Still before after := by
  intro lawful
  obtain ⟨still, kept⟩ := rests lawful
  exact ⟨still, funext kept⟩

theorem View.asks_late_still (view : View ι W K V) (origin : Job W A) (world : W) (asks : view.AsksLate origin) :
    Poll.Abides Eq view.holdings.Still (fun _ _ => True) world (origin world) :=
  Poll.abides_mono (view.asks_late_rests origin world asks) (fun _ _ equal => equal) (fun _ _ => view.holdings_still)
    fun _ _ _ => trivial

theorem View.mapped_polled [DecidableEq K] (view : View ι W K V) (place : ι) (tier : Tier W K V)
    (mapped : view.Mapped place tier) : view.holdings.Polled tier where
  getAsync := by
    intro key world valid
    exact Poll.abides_mono (mapped.getAsync key world valid) (fun _ _ equal => equal)
      (fun _ _ same => view.holdings_still same.1) fun _ _ _ => trivial
  putAsync := by
    intro key value world valid
    refine Poll.abides_mono (mapped.putAsync key value world valid) (fun _ _ stays => stays) ?_ (fun _ _ _ => trivial)
    intro before after adds lawful
    obtain ⟨still, changed⟩ := adds.1 lawful
    refine ⟨still, ?_⟩
    intro other
    -- Under other keys the place is as it was, so what it has under this key decides.
    rcases changed other key with kept | ⟨_, stored⟩
    · refine .inl (funext fun next => ?_)
      rcases changed other next with same | ⟨rfl, _⟩
      · exact same
      · exact kept
    · refine .inr (funext fun next => ?_)
      by_cases same : next = key
      · subst same
        rw [Function.update_self]
        exact stored
      · rw [Function.update_of_ne same]
        exact (changed other next).resolve_right fun here => same here.1

section Trails

variable {form : ResultForm V R} {operation : String} {count : Nat} {unmoved : W → Prop} {stored : V → W → Prop}
  {watched : Watched W V (Except (Failure E) R)}

theorem account_unhit (account : Account form operation count unmoved stored watched none) (place : Nat) (value : V) :
    .read place (.ok (some value)) ∉ watched.trail := by
  cases account with
  | idle world still => exact List.not_mem_nil
  | reading spot world within still => simp [Act.mem_absences]
  | asking world still => simp [Act.mem_absences]
  | given given held more world _ valued writes kept =>
      have unread : .read place (.ok (some value)) ∉ more := fun member => writes _ member
      simp [Act.mem_absences, unread]

theorem account_unanswered (account : Account form operation count unmoved stored watched none) :
    unmoved watched.world ∨ ∃ given value, .gave (.ok given) ∈ watched.trail ∧ form.toValue? given = some value ∧
      stored value watched.world := by
  cases account with
  | idle world still => exact .inl still
  | reading spot world within still => exact .inl still
  | asking world still => exact .inl still
  | given given held more world _ valued writes kept => exact .inr ⟨given, held, by simp, valued, kept⟩

end Trails

section Told

variable [DecidableEq K] {now before : K → Option V} {key : K} {value : V}

theorem kept_of_unheld (either : now = before ∨ now = Function.update before key (some value)) (unheld : now key = none) :
    now = before := by
  refine either.resolve_right ?_
  rintro rfl
  rw [Function.update_self] at unheld
  cases unheld

theorem set_of_held {held : V} (either : now = before ∨ now = Function.update before key (some value))
    (unheld : before key = none) (holds : now key = some held) : now = Function.update before key (some held) := by
  rcases either with rfl | rfl
  · cases unheld.symm.trans holds
  · rw [Function.update_self] at holds
    rw [holds]

end Told

namespace Resolve

section Dropped

def polledWatched (operation : String) (form : ResultForm V R) (key : K) (tiers : List (Tier W K V)) (handle current : Bool)
    (origin : Job W (Except (Failure E) R)) (polls : Nat) (context : Context W) :
    Option (Outcome (Watched W V (Except (Failure E) R)) K V R E) × Context (Watched W V (Except (Failure E) R)) :=
  (suspending operation form key (watchedFrom 0 tiers) handle current (origin.watched .asks .gave)).runFor polls
    ⟨⟨context.world, []⟩, context.metrics⟩

theorem dropped_account (holdings : Holdings W C) (stored : V → W → Prop) (operation : String) (form : ResultForm V R) (key : K)
    (tiers : List (Tier W K V)) (handle current : Bool) (origin : Job W (Except (Failure E) R)) (polls : Nat)
    (context : Context W)
    (gets : ∀ tier ∈ tiers, ∀ world, holdings.valid world →
      Poll.Abides Eq holdings.Still (fun _ _ => True) world (tier.getAsync key world))
    (quiet : ∀ world, holdings.valid world → Poll.Abides Eq holdings.Still (fun _ _ => True) world (origin world))
    (stores : ∀ value (now : Context (Watched W V (Except (Failure E) R))), holdings.Unmoved context.world now.world.world →
      (writeAll operation .store none key value (watchedFrom 0 tiers) now).Stops
        (fun now => stored value now.world.world) fun _ now => stored value now.world.world)
    (valid : holdings.valid context.world) :
    let ran := polledWatched operation form key tiers handle current origin polls context
    ran.1 = none →
      Account form operation tiers.length (holdings.Unmoved context.world) stored ran.2.world none := by
  intro ran dropped
  have unmoved : holdings.Unmoved context.world context.world := ⟨valid, rfl⟩
  by_cases inhabited : tiers = []
  · subst inhabited
    cases polls with
    | zero => exact .idle context.world unmoved
    | succ polls => cases dropped
  · have stops : (suspending operation form key (watchedFrom 0 tiers) handle current (origin.watched .asks .gave)
        ⟨⟨context.world, []⟩, context.metrics⟩).Stops _ _ :=
      suspending_accounted holdings key tiers handle current origin context.world context.metrics inhabited gets quiet stores
        unmoved
    have stopped := Job.run_for_stops polls stops (.idle context.world unmoved)
    rcases reached : ran with ⟨outcome, after⟩
    obtain rfl : outcome = none := (congrArg Prod.fst reached).symm.trans dropped
    have there : (suspending operation form key (watchedFrom 0 tiers) handle current (origin.watched .asks .gave)).runFor polls
        ⟨⟨context.world, []⟩, context.metrics⟩ = (none, after) := reached
    rw [there] at stopped
    exact stopped

theorem hit_ends (operation : String) (form : ResultForm V R) (key : K) (tiers : List (Tier W K V)) (handle current : Bool)
    (origin : Job W (Except (Failure E) R)) (polls : Nat) (context : Context W) (place : Nat) (value : V) :
    let ran := polledWatched operation form key tiers handle current origin polls context
    .read place (.ok (some value)) ∈ ran.2.world.trail →
      ran.1 = some ⟨.ok (form.ofValue value), if 0 < place ∧ (handle || current) = true then
          some ⟨operation, watchedFrom 0 (tiers.take place), key, value⟩ else none⟩ ∧
        place < tiers.length ∧
        ran.2.world.trail = Act.absences place ++ [Act.reads place, .read place (.ok (some value))] := by
  intro ran member
  have inhabited : tiers ≠ [] := by
    rintro rfl
    cases polls with
    | zero => cases member
    | succ polls => cases member
  have unhit := dropped_account Holdings.blank (fun _ _ => True) operation form key tiers handle current origin polls context
    (fun _ _ _ _ => Holdings.blank_abides _ _) (fun _ _ => Holdings.blank_abides _ _)
    (fun _ _ _ => Poll.stops_all (fun _ => trivial) fun _ _ => trivial) trivial
  rcases reached : ran with ⟨outcome, after⟩
  rw [reached] at member
  cases outcome with
  | none =>
      have there : polledWatched operation form key tiers handle current origin polls context = (none, after) := reached
      rw [there] at unhit
      have account := unhit rfl
      exact absurd member (account_unhit account place value)
  | some outcome =>
      obtain ⟨asked, skipped, closed, _⟩ := suspending_closed operation form key tiers handle current origin context.world
        context.metrics inhabited (named_at tiers)
      rw [Job.run_of_run_for polls _ _ after outcome reached] at closed
      generalize shown : after.world.trail = trail at closed member
      cases closed with
      | failed spot error within => simp [Act.mem_absences] at member
      | gave given result valueless => simp [Act.mem_absences] at member
      | stored given held answers more result valued all written =>
          have unread : .read place (.ok (some value)) ∉ more := fun among => by simp [mem_written written] at among
          simp [Act.mem_absences, unread] at member
      | hit spot held within =>
          obtain ⟨rfl, rfl⟩ : place = spot ∧ value = held := by simpa [Act.mem_absences] using member
          exact ⟨rfl, within, rfl⟩

theorem polled_watched_alike (operation : String) (form : ResultForm V R) (key : K) (tiers : List (Tier W K V))
    (handle current : Bool) (origin : Job W (Except (Failure E) R)) (polls : Nat) (context : Context W) :
    Alike (Context.Matched Watched.Erases Eq) (Option.Rel (OutcomeMatched Watched.Erases Eq))
      (polledWatched operation form key tiers handle current origin polls context)
      ((suspending operation form key tiers handle current origin).runFor polls context) :=
  Job.run_for_in_step polls _ _ _ context
    (suspending_in_step Metrics.same_tallies operation form key _ tiers handle current _ origin
      (watched_from_erases 0 tiers) (Job.watched_erases .asks .gave origin)) ⟨rfl, rfl⟩

theorem matched_of_some {U : Type} {same : A → U → Prop} {first : A} {second : Option U}
    (matched : Option.Rel same (some first) second) : ∃ answer, second = some answer ∧ same first answer := by
  cases matched with
  | some same => exact ⟨_, rfl, same⟩

theorem results_of_matched {U : Type} {rel : W → U → Prop} {tally : Metrics → Metrics → Prop}
    {first : Option (Outcome W K V R E)} {second : Option (Outcome U K V R E)}
    (matched : Option.Rel (OutcomeMatched rel tally) first second) :
    first.map Outcome.result = second.map Outcome.result := by
  cases matched with
  | none => rfl
  | some same => exact congrArg some same.1

theorem hit_settles (operation : String) (form : ResultForm V R) (key : K) (tiers : List (Tier W K V)) (handle current : Bool)
    (origin : Job W (Except (Failure E) R)) (polls : Nat) (context : Context W) (place : Nat) (value : V) :
    let plain := (suspending operation form key tiers handle current origin).runFor polls context
    let ran := polledWatched operation form key tiers handle current origin polls context
    .read place (.ok (some value)) ∈ ran.2.world.trail →
      ran.2.world.trail = Act.absences place ++ [Act.reads place, .read place (.ok (some value))] ∧
      ∃ outcome watched, plain.1 = some outcome ∧ ran.1 = some watched ∧ outcome.result = .ok (form.ofValue value) ∧
        ∀ later : Context W,
          let settled := settleDispatched outcome.dispatched later
          let beside := settleDispatched watched.dispatched ⟨⟨later.world, []⟩, later.metrics⟩
          beside.world.world = settled.world ∧
            ∃ answers, answers.length = (if handle || current then place else 0) ∧
              beside.world.trail.Perm (Act.outcomes value 0 answers) := by
  intro plain ran member
  have alike := (polled_watched_alike operation form key tiers handle current origin polls context).1
  change Option.Rel _ ran.1 plain.1 at alike
  obtain ⟨ended, within, shown⟩ := hit_ends operation form key tiers handle current origin polls context place value member
  refine ⟨shown, ?_⟩
  change ran.1 = _ at ended
  rw [ended] at alike
  obtain ⟨outcome, reached, matched⟩ := matched_of_some alike
  refine ⟨outcome, _, reached, ended, matched.1.symm, ?_⟩
  intro later settled beside
  have erased := (matched.2 ⟨⟨later.world, []⟩, later.metrics⟩ later ⟨rfl, rfl⟩).1
  obtain ⟨answers, more, all, written, longer, _⟩ :=
    settle_dispatched_writes operation key tiers (handle || current) place value (⟨⟨later.world, []⟩, later.metrics⟩ : Context (Watched W V (Except (Failure E) R))) within (named_at tiers)
  have behind : beside.world.trail = more := longer
  exact ⟨erased, answers, all, behind ▸ written⟩

end Dropped

end Resolve

namespace Call

-- The resolution as it is polled, and the same watched.
theorem dropped_calls_are_over [DecidableEq K] (holdings : Holdings W (ι → K → Option V)) (operation : Operation (Tier W K V))
    (form : ResultForm V R) (key : K) (current : Bool) (origin : Job W (Except (Failure E) R)) (elapsed : Float) (polls : Nat)
    (context : Context W) (polled : ∀ tier ∈ operation.tiers, holdings.Polled tier)
    (quiet : ∀ world, holdings.valid world → Poll.Abides Eq holdings.Still (fun _ _ => True) world (origin world))
    (valid : holdings.valid context.world) :
    let plain := (Resolve.suspending operation.name form key operation.tiers operation.backfillRuntime current origin).runFor
      polls context
    let ran := Resolve.polledWatched operation.name form key operation.tiers operation.backfillRuntime current origin polls
      context
    let trail : List (Act V (Except (Failure E) R)) := ran.2.world.trail
    (ran.1.map Resolve.Outcome.result = plain.1.map Resolve.Outcome.result ∧ ran.2.world.world = plain.2.world ∧
      ran.2.metrics = plain.2.metrics) ∧
    (plain.1 = none →
      (∀ through, let call : Call W K R E := .suspending key current origin elapsed (some polls)
        call.runEnding (call.ends through operation.name) operation form context = (none, plain.2)) ∧
      (∀ place value, .read place (.ok (some value)) ∉ trail) ∧
      (∀ before after : List (Act V (Except (Failure E) R)), trail = before ++ Act.asks :: after →
        before = Act.absences operation.tiers.length ∧ .asks ∉ after) ∧
      ((∀ place, holdings.contents plain.2.world place = holdings.contents context.world place) ∨
        ∃ given value, .gave (.ok given) ∈ trail ∧ form.toValue? given = some value ∧
          ∀ place, holdings.contents plain.2.world place = holdings.contents context.world place ∨
            holdings.contents plain.2.world place =
              Function.update (holdings.contents context.world place) key (some value))) ∧
    ∀ place value, .read place (.ok (some value)) ∈ trail →
      trail = Act.absences place ++ [Act.reads place, .read place (.ok (some value))] ∧
      ∃ outcome watched, plain.1 = some outcome ∧ ran.1 = some watched ∧ outcome.result = .ok (form.ofValue value) ∧
        ∀ later : Context W,
          let settled := Resolve.settleDispatched outcome.dispatched later
          let beside := Resolve.settleDispatched watched.dispatched ⟨⟨later.world, []⟩, later.metrics⟩
          beside.world.world = settled.world ∧
            ∃ answers, answers.length = (if operation.backfillRuntime || current then place else 0) ∧
              beside.world.trail.Perm (Act.outcomes value 0 answers) := by
  intro plain ran trail
  obtain ⟨answers, still⟩ := Resolve.polled_watched_alike operation.name form key operation.tiers operation.backfillRuntime
    current origin polls context
  change Option.Rel _ ran.1 plain.1 at answers
  change Context.Matched _ _ ran.2 plain.2 at still
  have erased : ran.2.world.world = plain.2.world := still.1
  have results := Resolve.results_of_matched answers
  refine ⟨⟨results, erased, still.2⟩, ?_, ?_⟩
  · intro dropped
    rw [dropped, Option.map_none, Option.map_eq_none_iff] at results
    have account := Resolve.dropped_account holdings (fun value now => holdings.Sets key value context.world now) operation.name
      form key operation.tiers operation.backfillRuntime current origin polls context
      (fun tier member => (polled tier member).getAsync key) quiet
      (fun value now unmoved => holdings.writes_set operation.name .store none key value operation.tiers _ now polled unmoved)
      valid results
    refine ⟨?_, account_unhit account, account_asks account, ?_⟩
    · intro through call
      have reached : plain = (none, plain.2) := Prod.ext dropped rfl
      change settleEnded _ plain = _
      rw [reached]
      rfl
    · rcases account_unanswered account with unmoved | ⟨given, value, gave, valued, sets⟩
      · exact .inl fun place => erased ▸ congrFun unmoved.2 place
      · exact .inr ⟨given, value, gave, valued, erased ▸ (sets valid).2⟩
  · exact Resolve.hit_settles operation.name form key operation.tiers operation.backfillRuntime current origin polls context

def unevenlySlow : Context World :=
  ⟨⟨[⟨.memory (.new "near" 10 none), true⟩,
    ⟨.scripted ⟨"middle", .empty, none, some ⟨.tier "middle" "down", none⟩, 0, 1, .usual⟩, true⟩,
    ⟨.scripted ⟨"far", .empty, none, none, 1, 3, .usual⟩, true⟩], .empty, []⟩, .empty⟩

def slowOperation : Operation (Tier World Json Json) :=
  ⟨"load", [World.tier ⟨0, "near"⟩, World.tier ⟨1, "middle"⟩, World.tier ⟨2, "far"⟩], ["id"], .plain, true⟩

def slowCall : Call World Json Json String := .suspending (.int 1) false (Session.originJob (.ok (.int 7)) 1) 0 (some 4)

theorem slow_call_is_over :
    let view := World.maps [0, 1, 2]
    let left := slowCall.run slowOperation ResultForm.plain unevenlySlow
    left.1 = none ∧
      view.held 0 left.2.world = Function.update (view.held 0 unevenlySlow.world) (.int 1) (some (.int 7)) ∧
      view.held 1 left.2.world = view.held 1 unevenlySlow.world ∧
      view.held 2 left.2.world = view.held 2 unevenlySlow.world := by
  have polled : ∀ tier ∈ slowOperation.tiers, (World.maps [0, 1, 2]).holdings.Polled tier := by
    simp only [slowOperation, List.forall_mem_cons]
    exact ⟨View.mapped_polled _ 0 _ (World.tier_mapped [0, 1, 2] ⟨0, "near"⟩ (by decide)),
      View.mapped_polled _ 1 _ (World.tier_mapped [0, 1, 2] ⟨1, "middle"⟩ (by decide)),
      View.mapped_polled _ 2 _ (World.tier_mapped [0, 1, 2] ⟨2, "far"⟩ (by decide)), List.forall_mem_nil _⟩
  have quiet : ∀ world, (World.maps [0, 1, 2]).holdings.valid world → Poll.Abides Eq (World.maps [0, 1, 2]).holdings.Still
      (fun _ _ => True) world (Session.originJob (.ok (.int 7) : Except (Failure String) Json) 1 world) :=
    fun world _ => View.asks_late_still _ _ world (World.origin_job_asks_late [0, 1, 2] _ 1)
  have valid : (World.maps [0, 1, 2]).holdings.valid unevenlySlow.world := by
    intro place member
    simp only [List.mem_cons, List.not_mem_nil, or_false] at member
    rcases member with rfl | rfl | rfl
    · exact ⟨_, rfl, trivial⟩
    · exact ⟨_, rfl, rfl⟩
    · exact ⟨_, rfl, rfl⟩
  obtain ⟨_, dropped, _⟩ := dropped_calls_are_over (World.maps [0, 1, 2]).holdings slowOperation ResultForm.plain (.int 1) false
    (Session.originJob (.ok (.int 7)) 1) 0 4 unevenlySlow polled quiet valid
  obtain ⟨idle, _, _, kept⟩ := dropped rfl
  have ended : slowCall.run slowOperation ResultForm.plain unevenlySlow = _ :=
    (run_eq_ending slowOperation ResultForm.plain slowCall unevenlySlow).trans (idle true)
  intro view left
  have reached : left.1 = none := congrArg Prod.fst ended
  rw [← congrArg Prod.snd ended] at kept
  have before (place : Fin 3) : view.held place unevenlySlow.world (.int 1) = none := by revert place; decide
  have near : view.held 0 left.2.world (.int 1) = some (.int 7) := rfl
  rcases kept with same | ⟨given, value, _, _, sets⟩
  · cases near.symm.trans ((congrFun (same 0) (.int 1)).trans (before 0))
  · exact ⟨reached, set_of_held (sets 0) (before 0) near, kept_of_unheld (sets 1) rfl, kept_of_unheld (sets 2) rfl⟩

end Call

end CacheTiers
