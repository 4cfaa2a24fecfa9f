import CacheTiers.Proofs.World.Holdings
import Mathlib.Data.List.Basic

namespace CacheTiers

variable {W C K V R E A : Type}

namespace Act

theorem not_among_writes (act : Act V A) {value : V} {more : List (Act V A)} (other : ¬ act.IsWriteOf value)
    (writes : ∀ act ∈ more, act.IsWriteOf value) : act ∉ more := fun member => other (writes act member)

theorem write_behind {front more before after : List (Act V A)} {place : Nat} {value : V}
    (unwritten : ∀ act ∈ front, ∀ place value, act ≠ .writes place value)
    (split : front ++ more = before ++ Act.writes place value :: after) :
    (∀ act ∈ front, act ∈ before) ∧ .writes place value ∈ more := by
  rcases List.append_eq_append_iff.mp split with ⟨between, longer, rest⟩ | ⟨between, longer, rest⟩
  · refine ⟨?_, by rw [rest]; simp⟩
    intro act member
    rw [longer]
    exact List.mem_append_left _ member
  · cases between with
    | nil =>
        rw [List.append_nil] at longer
        refine ⟨fun act member => longer ▸ member, ?_⟩
        rw [List.nil_append] at rest
        rw [← rest]
        exact List.mem_cons_self
    | cons act between =>
        obtain ⟨rfl, _⟩ := List.cons.inj rest
        exact absurd rfl (unwritten (.writes place value) (by rw [longer]; simp) place value)

end Act

section Consequences

variable {form : ResultForm V R} {operation : String} {count : Nat} {unmoved : W → Prop} {stored : V → W → Prop}
  {watched : Watched W V (Except (Failure E) R)} {result : Option (Except (Failure E) R)}

theorem account_asks (account : Account form operation count unmoved stored watched result)
    (before after : List (Act V (Except (Failure E) R))) (split : watched.trail = before ++ Act.asks :: after) :
    before = Act.absences count ∧ .asks ∉ after := by
  have member : .asks ∈ watched.trail := by
    rw [split]
    simp
  have once (rest : List (Act V (Except (Failure E) R))) (others : .asks ∉ rest)
      (shown : watched.trail = Act.absences count ++ Act.asks :: rest) : before = Act.absences count ∧ .asks ∉ after := by
    rw [shown] at split
    obtain ⟨first, _, rfl⟩ := (List.append_cons_inj_of_notMem (Act.asks_not_absent count) others).mp split
    exact ⟨first.symm, others⟩
  cases account with
  | idle world still => cases member
  | reading place world within still => simp [Act.mem_absences] at member
  | failed place error world within still => simp [Act.mem_absences] at member
  | hit place value more world result within writes =>
      simp [Act.mem_absences, Act.not_among_writes .asks id writes] at member
  | asking world still => exact once [] (by simp) rfl
  | refused failure world still => exact once [.gave (.error failure)] (by simp) rfl
  | absent given world valueless still => exact once [.gave (.ok given)] (by simp) rfl
  | given given value more world result valued writes kept =>
      exact once (.gave (.ok given) :: more) (by simp [Act.not_among_writes .asks id writes]) (by simp)

theorem account_failed (account : Account form operation count unmoved stored watched result) (place : Nat)
    (error : CacheError) (member : .read place (.error error) ∈ watched.trail) :
    place < count ∧ watched.trail = Act.absences place ++ [Act.reads place, .read place (.error error)] ∧
      result = some (.error (.cache error)) ∧ unmoved watched.world := by
  cases account with
  | idle world still => cases member
  | reading spot world within still => simp [Act.mem_absences] at member
  | failed spot fault world within still =>
      simp only [Act.mem_absences, List.mem_append, List.mem_cons, List.not_mem_nil, or_false, reduceCtorEq, false_or,
        Act.read.injEq, Except.error.injEq, and_false, exists_false] at member
      obtain ⟨rfl, rfl⟩ := member
      exact ⟨within, rfl, rfl, still⟩
  | hit spot value more world result within writes =>
      simp [Act.mem_absences, Act.not_among_writes (.read place (.error error)) id writes] at member
  | asking world still => simp [Act.mem_absences] at member
  | refused failure world still => simp [Act.mem_absences] at member
  | absent given world valueless still => simp [Act.mem_absences] at member
  | given given value more world result valued writes kept =>
      simp [Act.mem_absences, Act.not_among_writes (.read place (.error error)) id writes] at member

theorem account_refused (account : Account form operation count unmoved stored watched result) (failure : Failure E)
    (member : .gave (.error failure) ∈ watched.trail) :
    watched.trail = Act.absences count ++ [Act.asks, .gave (.error failure)] ∧ result = some (.error failure) ∧
      unmoved watched.world := by
  cases account with
  | idle world still => cases member
  | reading spot world within still => simp [Act.mem_absences] at member
  | failed spot fault world within still => simp [Act.mem_absences] at member
  | hit spot value more world result within writes =>
      simp [Act.mem_absences, Act.not_among_writes (.gave (.error failure)) id writes] at member
  | asking world still => simp [Act.mem_absences] at member
  | refused given world still =>
      obtain rfl : failure = given := by simpa [Act.mem_absences] using member
      exact ⟨rfl, rfl, still⟩
  | absent given world valueless still => simp [Act.mem_absences] at member
  | given given value more world result valued writes kept =>
      simp [Act.mem_absences, Act.not_among_writes (.gave (.error failure)) id writes] at member

theorem account_absent (account : Account form operation count unmoved stored watched result) (given : R)
    (valueless : form.toValue? given = none) (member : .gave (.ok given) ∈ watched.trail) :
    watched.trail = Act.absences count ++ [Act.asks, .gave (.ok given)] ∧
      result = some (Resolve.absentResult form operation) ∧ unmoved watched.world := by
  cases account with
  | idle world still => cases member
  | reading spot world within still => simp [Act.mem_absences] at member
  | failed spot fault world within still => simp [Act.mem_absences] at member
  | hit spot value more world result within writes =>
      simp [Act.mem_absences, Act.not_among_writes (.gave (.ok given)) id writes] at member
  | asking world still => simp [Act.mem_absences] at member
  | refused failure world still => simp [Act.mem_absences] at member
  | absent other world missing still =>
      obtain rfl : given = other := by simpa [Act.mem_absences] using member
      exact ⟨rfl, rfl, still⟩
  | given other value more world result valued writes kept =>
      obtain rfl : given = other := by
        simpa [Act.mem_absences, Act.not_among_writes (.gave (.ok given)) id writes] using member
      rw [valueless] at valued
      cases valued

theorem account_written (account : Account form operation count unmoved stored watched result)
    (before after : List (Act V (Except (Failure E) R))) (place : Nat) (value : V)
    (split : watched.trail = before ++ Act.writes place value :: after) :
    (∃ spot, .read spot (.ok (some value)) ∈ before) ∨
      ∃ given, .gave (.ok given) ∈ before ∧ form.toValue? given = some value := by
  have member : .writes place value ∈ watched.trail := by
    rw [split]
    simp
  cases account with
  | idle world still => cases member
  | reading spot world within still => simp [Act.mem_absences] at member
  | failed spot fault world within still => simp [Act.mem_absences] at member
  | asking world still => simp [Act.mem_absences] at member
  | refused failure world still => simp [Act.mem_absences] at member
  | absent given world valueless still => simp [Act.mem_absences] at member
  | hit spot held more world result within writes =>
      have unwritten : ∀ act ∈ Act.absences spot ++ [Act.reads spot, .read spot (.ok (some held))],
          ∀ place value, act ≠ (.writes place value : Act V (Except (Failure E) R)) := by
        rintro _ inFront place value rfl
        simp [Act.mem_absences] at inFront
      obtain ⟨behind, among⟩ := Act.write_behind unwritten split
      have same : value = held := writes _ among
      exact .inl ⟨spot, same ▸ behind _ (by simp)⟩
  | given given held more world result valued writes kept =>
      have unwritten : ∀ act ∈ Act.absences count ++ [Act.asks, .gave (.ok given)],
          ∀ place value, act ≠ (.writes place value : Act V (Except (Failure E) R)) := by
        rintro _ inFront place value rfl
        simp [Act.mem_absences] at inFront
      obtain ⟨behind, among⟩ := Act.write_behind unwritten split
      have same : value = held := writes _ among
      exact .inr ⟨given, behind _ (by simp), same ▸ valued⟩

end Consequences

namespace Call

def Quiet (holdings : Holdings W C) : Call W K R E → Prop
  | blocking _ origin _ => ∀ world, holdings.Still world (origin world).2
  | suspending _ _ origin _ _ => ∀ world, Poll.Abides Eq holdings.Still (fun _ _ => True) world (origin world)

theorem run_account (holdings : Holdings W C) (operation : Operation (Tier W K V)) (form : ResultForm V R)
    (call : Call W K R E) (context : Context W) (inhabited : operation.tiers ≠ [])
    (careful : ∀ tier ∈ operation.tiers, holdings.Careful tier) (quiet : call.Quiet holdings)
    (valid : holdings.valid context.world) :
    let ran := call.watched.run operation.watched form ⟨⟨context.world, []⟩, context.metrics⟩
    Account form operation.name operation.tiers.length (holdings.Unmoved context.world) (fun _ _ => True) ran.2.world
      ran.1 := by
  have unmoved : holdings.Unmoved context.world context.world := ⟨valid, rfl⟩
  cases call with
  | blocking key origin elapsed =>
      exact Resolve.blocking_account holdings key operation.tiers origin context.world context.metrics inhabited careful quiet
        unmoved
  | suspending key current origin elapsed polls =>
      have timed : (operation.watched.resolveAsync form key current (origin.watched .asks .gave) elapsed
          ⟨⟨context.world, []⟩, context.metrics⟩).Stops
            (fun now => Account form operation.name operation.tiers.length (holdings.Unmoved context.world) (fun _ _ => True)
              now.world none)
            fun outcome now => Resolve.Accounted form operation.name operation.tiers.length (holdings.Unmoved context.world)
              (fun _ _ => True) outcome now.world :=
        Poll.stops_bind
          (Resolve.suspending_accounted holdings key operation.tiers operation.backfillRuntime current origin context.world
            context.metrics inhabited (fun tier member now _ => (careful tier member).getAsync key now)
            (fun now _ => quiet now) (fun _ _ _ => Poll.stops_all (fun _ => trivial) fun _ _ => trivial) unmoved)
          fun _ _ accounted => accounted
      cases polls with
      | none => exact Resolve.settle_account _ _ (Job.run_stops timed)
      | some polls =>
          have stopped := Job.run_for_stops polls timed (.idle context.world unmoved)
          simp only [run, watched]
          rcases ran : (operation.watched.resolveAsync form key current (origin.watched .asks .gave) elapsed).runFor polls
            ⟨⟨context.world, []⟩, context.metrics⟩ with ⟨outcome, after⟩
          rw [ran] at stopped
          cases outcome with
          | none => exact stopped
          | some outcome => exact Resolve.settle_account outcome after stopped

-- A lone tier that computes is read once, first of all, and is found to hold what a get of it finds.
theorem lone_reads_as_get {holdings : Holdings W C} {tier : Tier W K V} {key : K} {world begun : W}
    {look : K → W → Lookup V × W} {write : K → V → W → Except CacheError Unit × W} (operation : String)
    (form : ResultForm V R) (origin : W → Except (Failure E) R × W) (metrics : Metrics)
    (computes : holdings.Computes tier key world begun look write) :
    let ended := Resolve.throughOne operation form key (tier.watched 0) (Watched.act .asks .gave origin)
      ⟨⟨world, []⟩, metrics⟩
    ∃ rest, ended.2.world.trail = .reads 0 :: .read 0 (tier.get key world).1 :: rest := by
  intro ended
  have watched := Resolve.computes_watched (A := Except (Failure E) R) holdings computes 0 []
  rw [← computes.finds]
  rcases looked : look key begun with ⟨answer, after⟩
  simp only [Tier.getThenPut, Watched.act, looked, List.nil_append] at watched
  have answered (outcome : Lookup V) (consulted : (tier.watched 0).computeIfAbsent key ⟨world, []⟩ =
      .answer outcome (⟨after, [Act.reads 0, .read 0 outcome]⟩ : Watched W V (Except (Failure E) R))) :
      ended.2.world.trail = [.reads 0, .read 0 outcome] :=
    congrArg Watched.trail (Resolve.through_one_answered key (tier.watched 0) _ ⟨⟨world, []⟩, metrics⟩ _ _ consulted)
  cases answer with
  | error error => exact ⟨[], answered (.error error) watched⟩
  | ok found =>
      cases found with
      | some value => exact ⟨[], answered (.ok (some value)) watched⟩
      | none =>
          have resumed := Resolve.through_one_asked operation form key (tier.watched 0) (Watched.act .asks .gave origin)
            ⟨⟨world, []⟩, metrics⟩ _ _ watched
          have left : ended.2.world = _ := (congrArg (·.2.world) resumed).trans (Resolve.after_resume_world ..)
          simp only [left, Context.onWorld, Watched.act]
          cases Resolve.offered form (origin after).1 with
          | none => exact ⟨_, rfl⟩
          | some value =>
              simp only [Tier.keep, Watched.act]
              rcases write key value (origin after).2 with ⟨answer, later⟩
              cases answer with
              | error error => exact ⟨_, rfl⟩
              | ok done => exact ⟨_, rfl⟩

-- The plain call, and the same call watched. Where a call computes at a lone tier, what is watched is the tier's look and
-- its write, which find and leave what a get and a put do.
theorem nothing_is_written_without_value (holdings : Holdings W C) (operation : Operation (Tier W K V))
    (form : ResultForm V R) (call : Call W K R E) (context : Context W) (inhabited : operation.tiers ≠ [])
    (careful : ∀ tier ∈ operation.tiers, holdings.Careful tier) (quiet : call.Quiet holdings)
    (valid : holdings.valid context.world) :
    let plain := call.run operation form context
    let ran := call.watched.run operation.watched form ⟨⟨context.world, []⟩, context.metrics⟩
    let trail : List (Act V (Except (Failure E) R)) := ran.2.world.trail
    (ran.1 = plain.1 ∧ ran.2.world.world = plain.2.world) ∧
    (∀ before after : List (Act V (Except (Failure E) R)), trail = before ++ .asks :: after →
      before = Act.absences operation.tiers.length ∧ .asks ∉ after) ∧
    (∀ place error, .read place (.error error) ∈ trail →
      place < operation.tiers.length ∧ trail = Act.absences place ++ [.reads place, .read place (.error error)] ∧
        plain.1 = some (.error (.cache error)) ∧ holdings.contents plain.2.world = holdings.contents context.world) ∧
    (∀ failure, .gave (.error failure) ∈ trail →
      trail = Act.absences operation.tiers.length ++ [.asks, .gave (.error failure)] ∧
        plain.1 = some (.error failure) ∧ holdings.contents plain.2.world = holdings.contents context.world) ∧
    (∀ given, form.toValue? given = none → .gave (.ok given) ∈ trail →
      trail = Act.absences operation.tiers.length ++ [.asks, .gave (.ok given)] ∧
        plain.1 = some (Resolve.absentResult form operation.name) ∧
        holdings.contents plain.2.world = holdings.contents context.world) ∧
    (∀ (before after : List (Act V (Except (Failure E) R))) (place : Nat) (value : V),
      trail = before ++ .writes place value :: after →
      (∃ spot, .read spot (.ok (some value)) ∈ before) ∨
        ∃ given, .gave (.ok given) ∈ before ∧ form.toValue? given = some value) ∧
    ∀ tier key origin elapsed, operation.tiers = [tier] → call = .blocking key origin elapsed →
      (∃ begun look write, holdings.Computes tier key context.world begun look write ∧
        (tier.watched 0).computeIfAbsent key (⟨context.world, []⟩ : Watched W V (Except (Failure E) R)) =
          Tier.getThenPut (fun key => Watched.act (.reads 0) (.read 0) (look key))
            (fun key value => Watched.act (.writes 0 value) (.wrote 0) (write key value)) key ⟨begun, []⟩) ∧
        (∃ rest, trail = .reads 0 :: .read 0 (tier.get key context.world).1 :: rest) ∧
        (.asks ∈ trail → (tier.get key context.world).1 = .ok none) := by
  intro plain ran trail
  have account := run_account holdings operation form call context inhabited careful quiet valid
  obtain ⟨answer, world⟩ := call.run_watched operation form context []
  have same : ran.1 = plain.1 := answer
  have erased : ran.2.world.world = plain.2.world := world
  refine ⟨⟨same, erased⟩, account_asks account, ?_, ?_, ?_, account_written account, ?_⟩
  · intro place error member
    obtain ⟨within, shown, result, still⟩ := account_failed account place error member
    exact ⟨within, shown, same.symm.trans result, erased ▸ still.2⟩
  · intro failure member
    obtain ⟨shown, result, still⟩ := account_refused account failure member
    exact ⟨shown, same.symm.trans result, erased ▸ still.2⟩
  · intro given valueless member
    obtain ⟨shown, result, still⟩ := account_absent account given valueless member
    exact ⟨shown, same.symm.trans result, erased ▸ still.2⟩
  · rintro tier key origin elapsed alone rfl
    obtain ⟨name, tiers, params, mode, handle⟩ := operation
    obtain rfl : tiers = [tier] := alone
    obtain ⟨begun, look, write, computes⟩ := (careful tier List.mem_cons_self).compute key context.world valid
    have reads := lone_reads_as_get name form origin context.metrics computes
    refine ⟨⟨begun, look, write, computes, Resolve.computes_watched holdings computes 0 []⟩, reads, ?_⟩
    intro asked
    obtain ⟨before, after, split⟩ := List.append_of_mem asked
    obtain ⟨rest, shown⟩ := reads
    obtain ⟨absent, _⟩ := account_asks account before after split
    have second := congrArg (·[1]?) (shown.symm.trans (split.trans (congrArg (· ++ .asks :: after) absent)))
    exact (Act.read.inj (Option.some.inj second)).2

def unreadableStart : Context World :=
  ⟨⟨[⟨.memory (.new "near" 10 none), true⟩,
    ⟨.scripted ⟨"far", .ofList [(.int 2, .int 5)], some ⟨.tier "far" "down", none⟩, none, 1, 0, .usual⟩, true⟩],
    .empty, []⟩, .empty⟩

def unreadableOperation : Operation (Tier World Json Json) :=
  ⟨"load", [World.tier ⟨0, "near"⟩, World.tier ⟨1, "far"⟩], ["id"], .plain, false⟩

def unreadableCall : Call World Json Json String :=
  .suspending (.int 1) true (Session.originJob (.ok (.int 7)) 1) 0 none

def heldStart : Context World :=
  ⟨⟨[⟨.memory ((Memory.new "near" 10 none).insert (.int 1) (.int 5)), true⟩], .empty, []⟩, .empty⟩

def heldOperation : Operation (Tier World Json Json) := ⟨"load", [World.tier ⟨0, "near"⟩], ["id"], .plain, false⟩

def heldOrigin (world : World) : Except (Failure String) Json × World := (.ok (.int 7), world.note .origin)

def heldCall : Call World Json Json String := .blocking (.int 1) heldOrigin 0

theorem unreadable_and_held_tiers_are_not_written :
    ((unreadableCall.run unreadableOperation ResultForm.plain unreadableStart).1 =
        some (.error (.cache (.tier "far" "down"))) ∧
      (World.holdings [0, 1]).contents
          (unreadableCall.run unreadableOperation ResultForm.plain unreadableStart).2.world =
        (World.holdings [0, 1]).contents unreadableStart.world) ∧
      .asks ∉ (heldCall.watched.run heldOperation.watched ResultForm.plain
        ⟨⟨heldStart.world, []⟩, heldStart.metrics⟩).2.world.trail := by
  have careful : ∀ tier ∈ unreadableOperation.tiers, (World.holdings [0, 1]).Careful tier :=
    List.forall_mem_cons.mpr ⟨World.tier_careful ⟨0, "near"⟩ (by decide),
      List.forall_mem_cons.mpr ⟨World.tier_careful ⟨1, "far"⟩ (by decide), List.forall_mem_nil _⟩⟩
  have valid : (World.holdings [0, 1]).valid unreadableStart.world := by
    intro place member
    rcases List.mem_pair.mp member with rfl | rfl
    · exact ⟨_, rfl, trivial⟩
    · exact ⟨_, rfl, rfl⟩
  have shown : (unreadableCall.watched.run unreadableOperation.watched ResultForm.plain
      ⟨⟨unreadableStart.world, []⟩, unreadableStart.metrics⟩).2.world.trail =
        [.reads 0, .read 0 (.ok none), .reads 1, .read 1 (.error (.tier "far" "down"))] := by rfl
  have account := nothing_is_written_without_value (World.holdings [0, 1]) unreadableOperation ResultForm.plain unreadableCall
    unreadableStart (by simp [unreadableOperation]) careful (World.origin_job_still _ 1) valid
  obtain ⟨_, _, result, contents⟩ := account.2.2.1 1 (.tier "far" "down") (by rw [shown]; simp)
  refine ⟨⟨result, contents⟩, ?_⟩
  have alone : ∀ tier ∈ heldOperation.tiers, (World.holdings [0]).Careful tier :=
    List.forall_mem_cons.mpr ⟨World.tier_careful ⟨0, "near"⟩ (by decide), List.forall_mem_nil _⟩
  have held : (World.holdings [0]).valid heldStart.world := by
    intro place member
    rw [List.mem_singleton.mp member]
    exact ⟨_, rfl, trivial⟩
  obtain ⟨_, _, _, _, _, _, lone⟩ := nothing_is_written_without_value (World.holdings [0]) heldOperation ResultForm.plain
    heldCall heldStart (by simp [heldOperation]) alone (fun world => World.note_still .origin world) held
  intro asked
  have absent := (lone (World.tier ⟨0, "near"⟩) (.int 1) heldOrigin 0 rfl rfl).2.2 asked
  have present : ((World.tier ⟨0, "near"⟩).get (.int 1) heldStart.world).1 = .ok (some (.int 5)) := by rfl
  cases present.symm.trans absent

end Call

end CacheTiers
