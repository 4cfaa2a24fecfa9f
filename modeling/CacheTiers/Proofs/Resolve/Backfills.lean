import CacheTiers.Proofs.Resolve.Lacking
import CacheTiers.Proofs.World.Stock

namespace CacheTiers.Resolve

variable {W K V R E A : Type}

variable [DecidableEq K] (holdings : Holdings W (Nat → K → Option V))

-- The plain resolution, and the same one watched. Of the nearer tiers, `filled` many have taken the value.
theorem blocking_hit_fills_nearer_tiers (operation : String) (form : ResultForm V R) (key : K)
    (nearer : List (Tier W K V)) (hit : Tier W K V) (further : List (Tier W K V)) (origin : W → Except (Failure E) R × W)
    (context : Context W) (met after : W) (value : V) (several : 2 ≤ (nearer ++ hit :: further).length)
    (stack : ∀ place tier, (nearer ++ hit :: further)[place]? = some tier → holdings.Stores place tier)
    (lacking : Lacking (fun tier => tier.get key) nearer context.world met)
    (holds : hit.get key met = (.ok (some value), after)) (valid : holdings.valid context.world) :
    let plain := blocking operation form key (nearer ++ hit :: further) origin context
    let watched := blocking operation form key (watchedFrom 0 (nearer ++ hit :: further)) (Watched.act .asks .gave origin)
      (⟨⟨context.world, []⟩, context.metrics⟩ : Context (Watched W V (Except (Failure E) R)))
    (watched.1 = plain.1 ∧ watched.2.world.world = plain.2.world) ∧
    ∃ filled,
      (∀ place, place < filled → holdings.contents plain.2.world place =
        Function.update (holdings.contents context.world place) key (some value)) ∧
      (∀ place, filled ≤ place → holdings.contents plain.2.world place = holdings.contents context.world place) ∧
      (filled = nearer.length ∧ plain.1 = .ok (form.ofValue value) ∧ watched.2.world.trail =
          Act.finding nearer.length value ++ Act.outcomes value 0 (List.replicate filled (.ok ())) ∨
        filled < nearer.length ∧ ∃ error, plain.1 = .error (.cache error) ∧ watched.2.world.trail =
          Act.finding nearer.length value ++ Act.outcomes value 0 (List.replicate filled (.ok ()) ++ [.error error])) := by
  intro plain watched
  obtain ⟨result, world, _⟩ := blocking_watched operation form key (nearer ++ hit :: further) origin context []
  have placed := placed_stack stack
  obtain ⟨lawful, same⟩ := found_still holdings lacking holds
    (fun tier member now => (placed_mem placed tier member).elim fun _ stores => stores.get key now) valid
  have begun : watched = afterFill form value _ := blocking_hit_watched operation form key nearer hit further
    (Watched.act .asks .gave origin) context.world met after context.metrics value several lacking holds
  obtain ⟨filled, ⟨_, inside, outside⟩, ends⟩ := fill_stores holdings operation .backfill key value 0 nearer
    (⟨⟨after, Act.finding nearer.length value⟩, _⟩ : Context (Watched W V (Except (Failure E) R))) (placed_front placed) lawful
  generalize fill operation .backfill key value (watchedFrom 0 nearer) _ = written at begun inside outside ends
  obtain ⟨answer, now⟩ := written
  have ended : watched.2 = now := by rw [begun, after_fill_context]
  dsimp only at inside outside ends
  rw [← ended, world, same] at inside outside
  rw [← ended] at ends
  refine ⟨⟨result, world⟩, filled, ?_, ?_, ?_⟩
  · exact fun place below => inside place (Nat.zero_le place) (by simpa using below)
  · exact fun place above => outside place (.inr (by simpa using above))
  · rcases ends with ⟨all, rfl, trail⟩ | ⟨within, error, rfl, trail⟩
    · exact .inl ⟨all, result.symm.trans (congrArg Prod.fst begun), trail⟩
    · exact .inr ⟨within, error, result.symm.trans (congrArg Prod.fst begun), trail⟩

def fullStart : Context World :=
  ⟨⟨[⟨.memory (.new "near" 10 none), true⟩,
    ⟨.scripted ⟨"middle", .empty, none, some ⟨.tier "middle" "full", none⟩, 1, 2, .usual⟩, true⟩,
    ⟨.scripted ⟨"far", .ofList [(.int 1, .int 5)], none, none, 1, 0, .usual⟩, true⟩], .empty, []⟩, .empty⟩

def fullNearer : List (Tier World Json Json) := [World.tier ⟨0, "near"⟩, World.tier ⟨1, "middle"⟩]

theorem full_stack (law : Nat → Tier World Json Json → Prop) (near : law 0 (World.tier ⟨0, "near"⟩))
    (middle : law 1 (World.tier ⟨1, "middle"⟩)) (far : law 2 (World.tier ⟨2, "far"⟩)) :
    ∀ place tier, (fullNearer ++ [World.tier ⟨2, "far"⟩])[place]? = some tier → law place tier := by
  intro place tier found
  match place with
  | 0 =>
      cases found
      exact near
  | 1 =>
      cases found
      exact middle
  | 2 =>
      cases found
      exact far
  | place + 3 => cases found

theorem full_valid : (World.stock [0, 1, 2]).valid fullStart.world := by
  refine List.forall_mem_cons.mpr ⟨⟨_, rfl, rfl⟩, List.forall_mem_cons.mpr ⟨⟨_, rfl, rfl⟩, ?_⟩⟩
  exact List.forall_mem_singleton.mpr ⟨_, rfl, rfl⟩

theorem full_tier_ends_backfill :
    let ended := blocking (E := String) "load" ResultForm.plain (.int 1) (fullNearer ++ [World.tier ⟨2, "far"⟩])
      (Session.originAction (.ok (.int 9))) fullStart
    ended.1 = .error (.cache (.tier "middle" "full")) ∧
      (World.stock [0, 1, 2]).contents ended.2.world 0 (.int 1) = some (.int 5) ∧
      (World.stock [0, 1, 2]).contents ended.2.world 1 = (World.stock [0, 1, 2]).contents fullStart.world 1 := by
  intro ended
  have failed : ended.1 = .error (.cache (.tier "middle" "full")) := by rfl
  have stack := full_stack (World.stock [0, 1, 2]).Stores (World.tier_stores _ 0 (by decide) rfl)
    (World.tier_stores _ 1 (by decide) rfl) (World.tier_stores _ 2 (by decide) rfl)
  have lacking : Lacking (fun tier => tier.get (.int 1)) fullNearer fullStart.world _ :=
    .cons _ _ _ _ _ rfl (.cons _ _ _ _ _ rfl (.nil _))
  obtain ⟨_, filled, inside, outside, ends⟩ := blocking_hit_fills_nearer_tiers (E := String) (World.stock [0, 1, 2]) "load"
    ResultForm.plain (.int 1) fullNearer (World.tier ⟨2, "far"⟩) [] (Session.originAction (.ok (.int 9))) fullStart _ _ (.int 5)
    (by decide) stack lacking rfl full_valid
  have acts : (blocking (E := String) "load" ResultForm.plain (.int 1)
      (watchedFrom 0 (fullNearer ++ [World.tier ⟨2, "far"⟩])) (Watched.act .asks .gave (Session.originAction (.ok (.int 9))))
      ⟨⟨fullStart.world, []⟩, fullStart.metrics⟩).2.world.trail.length = 10 := by rfl
  rcases ends with ⟨_, done, _⟩ | ⟨within, error, _, trail⟩
  · cases failed.symm.trans done
  · rw [trail] at acts
    match filled, within with
    | 0, _ => simp [Act.finding, Act.absences, Act.outcomes, fullNearer, List.range_succ] at acts
    | 1, _ =>
        refine ⟨failed, ?_, outside 1 (Nat.le_refl 1)⟩
        rw [inside 0 Nat.zero_lt_one, Function.update_self]

section Suspending

theorem settle_dispatched_stores (operation : String) (key : K) (value : V) (nearer : List (Tier W K V)) (runtime : Bool)
    (context : Context (Watched W V A)) (stack : Placed holdings.StoresLate 0 nearer)
    (valid : holdings.valid context.world.world) :
    let settled := settleDispatched (if !nearer.isEmpty && runtime then
      some ⟨operation, watchedFrom 0 nearer, key, value⟩ else none) context
    ∃ answers more, answers.length = (if runtime then nearer.length else 0) ∧
      settled.world.trail = context.world.trail ++ more ∧ more.Perm (Act.outcomes value 0 answers) ∧
      (∀ place answer, answers[place]? = some answer → holdings.contents settled.world.world place =
        taken key value answer (holdings.contents context.world.world place)) ∧
      ∀ place, answers.length ≤ place →
        holdings.contents settled.world.world place = holdings.contents context.world.world place := by
  intro settled
  by_cases sent : (!nearer.isEmpty && runtime) = true
  · have running : runtime = true := by simp_all
    obtain ⟨more, all, longer, perm, inside, outside⟩ := write_all_taken holdings operation .backfill (some .backfillError) key
      value nearer context stack valid
    have ended : settled = settleDispatched (some ⟨operation, watchedFrom 0 nearer, key, value⟩) context := by
      simp only [settled, if_pos sent]
    rw [settle_dispatched_some] at ended
    rw [ended]
    exact ⟨_, more, by rw [if_pos running, all], longer, perm, inside, outside⟩
  · have idle : settled = context := by simp only [settled, if_neg sent, settleDispatched]
    refine ⟨[], [], ?_, ?_, .refl _, ?_, ?_⟩
    · cases runtime with
      | false => rfl
      | true => simp_all
    · rw [idle, List.append_nil]
    · intro place answer found
      cases found
    · intro place _
      rw [idle]

-- The plain resolution, the same one watched, and others over tiers that look for the key in the same way. What it has
-- dispatched is run from any point at which the tiers are what they are taken for.
theorem suspending_hit_leaves_backfill_behind (operation : String) (form : ResultForm V R) (key : K)
    (nearer : List (Tier W K V)) (hit : Tier W K V) (further : List (Tier W K V)) (handle current : Bool)
    (origin : Job W (Except (Failure E) R)) (context : Context W) (met after : W) (value : V)
    (stack : ∀ place tier, (nearer ++ hit :: further)[place]? = some tier → holdings.StoresLate place tier)
    (lacking : Lacking (fun tier => (tier.getAsync key).run) nearer context.world met)
    (holds : (hit.getAsync key).run met = (.ok (some value), after)) (valid : holdings.valid context.world) :
    let plain := (suspending operation form key (nearer ++ hit :: further) handle current origin).run context
    let watched := (suspending operation form key (watchedFrom 0 (nearer ++ hit :: further)) handle current
      (origin.watched .asks .gave)).run
      (⟨⟨context.world, []⟩, context.metrics⟩ : Context (Watched W V (Except (Failure E) R)))
    (watched.1.result = plain.1.result ∧ watched.2.world.world = plain.2.world) ∧
    plain.1.result = .ok (form.ofValue value) ∧ watched.2.world.trail = Act.finding nearer.length value ∧
    (holdings.valid plain.2.world ∧ holdings.contents plain.2.world = holdings.contents context.world) ∧
    plain.1.dispatched.isSome = (!nearer.isEmpty && (handle || current)) ∧
    (∀ (others : List (Tier W K V)) (otherHit : Tier W K V) (beyond : List (Tier W K V))
      (elsewhere : Job W (Except (Failure E) R)),
      others.map Tier.lookups = nearer.map Tier.lookups → otherHit.lookups = hit.lookups →
      let other := (suspending operation form key (others ++ otherHit :: beyond) handle current elsewhere).run context
      other.1.result = plain.1.result ∧ other.2 = plain.2) ∧
    (∀ later : Context W, holdings.valid later.world →
      let settled := settleDispatched plain.1.dispatched later
      let seen := settleDispatched watched.1.dispatched ⟨⟨later.world, []⟩, later.metrics⟩
      seen.world.world = settled.world ∧
      ∃ answers, answers.length = (if handle || current then nearer.length else 0) ∧
        seen.world.trail.Perm (Act.outcomes value 0 answers) ∧
        (∀ place answer, answers[place]? = some answer → holdings.contents settled.world place =
          taken key value answer (holdings.contents later.world place)) ∧
        ∀ place, answers.length ≤ place → holdings.contents settled.world place = holdings.contents later.world place) ∧
    ((handle || current) = false → Metrics.Grows
      ((nearer.map fun tier => ⟨operation, tier.name, .miss⟩) ++ [⟨operation, hit.name, .hit⟩] ++
        nearer.map fun tier => ⟨operation, tier.name, .backfillError⟩) [] context.metrics plain.2.metrics) := by
  intro plain watched
  obtain ⟨⟨result, settles⟩, erased, _⟩ :=
    suspending_watched operation form key (nearer ++ hit :: further) handle current origin context []
  have placed := placed_stack stack
  have still := found_still holdings lacking holds
    (fun tier member now => (placed_mem placed tier member).elim fun _ stores => stores.getAsync key now) valid
  have begun : plain = (hitOutcome (handle || current) form ⟨operation, nearer, key, value⟩, ⟨after, _⟩) :=
    suspending_hit operation form key nearer hit further handle current origin context.world met after context.metrics value
      lacking holds
  have shown : watched = (hitOutcome (handle || current) form ⟨operation, watchedFrom 0 nearer, key, value⟩, ⟨⟨after, _⟩, _⟩) :=
    suspending_hit_watched operation form key nearer hit further handle current (origin.watched .asks .gave) context.world met
      after context.metrics value lacking holds
  refine ⟨⟨result, erased⟩, by rw [begun, hitOutcome], by rw [shown], ?_, ?_, ?_, ?_, ?_⟩
  · rw [begun]
    exact still
  · rw [begun]
    exact hit_outcome_dispatched ..
  · intro others otherHit beyond elsewhere looks same
    exact suspending_hit_alike operation form key nearer others hit otherHit further beyond handle current origin elsewhere
      context met after value lacking holds looks same
  · intro later lawful settled seen
    have same : seen.world.world = settled.world :=
      (settles ⟨⟨later.world, []⟩, later.metrics⟩ later ⟨rfl, rfl⟩).1
    obtain ⟨answers, more, all, trail, perm, inside, outside⟩ := settle_dispatched_stores holdings operation key value nearer
      (handle || current) (⟨⟨later.world, []⟩, later.metrics⟩ : Context (Watched W V (Except (Failure E) R)))
      (placed_front placed) lawful
    have sent : watched.1.dispatched = if !nearer.isEmpty && (handle || current) then
        some ⟨operation, watchedFrom 0 nearer, key, value⟩ else none := by
      rw [shown, hitOutcome, watched_from_empty]
    rw [← sent] at trail inside outside
    refine ⟨same, answers, all, ?_, same ▸ inside, same ▸ outside⟩
    rw [List.nil_append] at trail
    exact trail ▸ perm
  · intro idle
    have counted := late_counted_grows operation (nearer.map Tier.name) hit.name context.metrics
    rw [List.map_map, List.map_map] at counted
    rw [begun, idle]
    exact counted

theorem backfill_outlives_full_tier :
    let ended := (suspending (E := String) "load" ResultForm.plain (.int 1) (fullNearer ++ [World.tier ⟨2, "far"⟩]) false true
      (Session.originJob (.ok (.int 9)) 1)).run fullStart
    let settled := settleDispatched ended.1.dispatched fullStart
    ended.1.result = .ok (.int 5) ∧ ended.1.dispatched.isSome = true ∧
      (World.stock [0, 1, 2]).contents settled.world 0 (.int 1) = some (.int 5) ∧
      (World.stock [0, 1, 2]).contents settled.world 1 = (World.stock [0, 1, 2]).contents fullStart.world 1 := by
  intro ended settled
  have stack := full_stack (World.stock [0, 1, 2]).StoresLate (World.tier_stores_late _ 0 (by decide) rfl)
    (World.tier_stores_late _ 1 (by decide) rfl) (World.tier_stores_late _ 2 (by decide) rfl)
  have lacking : Lacking (fun tier => (tier.getAsync (.int 1)).run) fullNearer fullStart.world _ :=
    .cons _ _ _ _ _ rfl (.cons _ _ _ _ _ rfl (.nil _))
  obtain ⟨_, result, _, _, sent, _, detached, _⟩ := suspending_hit_leaves_backfill_behind (E := String)
    (World.stock [0, 1, 2]) "load" ResultForm.plain (.int 1) fullNearer (World.tier ⟨2, "far"⟩) [] false true
    (Session.originJob (.ok (.int 9)) 1) fullStart _ _ (.int 5) stack lacking rfl full_valid
  obtain ⟨_, answers, _, perm, inside, _⟩ := detached fullStart full_valid
  have told : List.Perm [Act.writes 0 (Json.int 5), .wrote 0 (.ok ()), .writes 1 (.int 5),
      .wrote 1 (.error (.tier "middle" "full"))]
      (Act.outcomes (Json.int 5) 0 answers : List (Act Json (Except (Failure String) Json))) := perm
  have took := inside 0 (.ok ()) (answered_of_wrote told 0 _ (by simp))
  have refused := inside 1 (.error (.tier "middle" "full")) (answered_of_wrote told 1 _ (by simp))
  rw [taken] at took
  exact ⟨result, sent, (congrFun took (.int 1)).trans (Function.update_self ..), refused⟩

end Suspending

end CacheTiers.Resolve
