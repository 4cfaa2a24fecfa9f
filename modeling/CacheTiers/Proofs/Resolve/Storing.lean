import CacheTiers.Proofs.Resolve.Backfills
import CacheTiers.Proofs.Resolve.Missed

namespace CacheTiers.Resolve

variable {W K V R E A : Type}

def FailsFirst (answers : List (Except CacheError Unit)) (place : Nat) (error : CacheError) : Prop :=
  answers[place]? = some (.error error) ∧ ∀ nearer, nearer < place → answers[nearer]? = some (.ok ())

theorem first_error_none (answers : List (Except CacheError Unit)) (unfailing : firstError? answers = none) :
    ∀ answer ∈ answers, answer = .ok () := by
  induction answers with
  | nil => exact List.forall_mem_nil _
  | cons first rest ih =>
      cases first with
      | error error => cases unfailing
      | ok done => exact List.forall_mem_cons.mpr ⟨rfl, ih unfailing⟩

theorem first_error_some (answers : List (Except CacheError Unit)) (error : CacheError)
    (fails : firstError? answers = some error) : ∃ place, FailsFirst answers place error := by
  induction answers with
  | nil => cases fails
  | cons first rest ih =>
      cases first with
      | error other =>
          cases fails
          exact ⟨0, rfl, fun nearer below => absurd below (Nat.not_lt_zero nearer)⟩
      | ok done =>
          obtain ⟨place, found, before⟩ := ih fails
          refine ⟨place + 1, found, ?_⟩
          intro nearer below
          cases nearer with
          | zero => rfl
          | succ nearer => exact before nearer (Nat.lt_of_succ_lt_succ below)

theorem after_writes_result (form : ResultForm V R) (value : V) (answers : List (Except CacheError Unit)) :
    ((∀ answer ∈ answers, answer = .ok ()) ∧
      (afterWrites form value answers : Except (Failure E) R) = .ok (form.ofValue value)) ∨
      ∃ place error, FailsFirst answers place error ∧
        (afterWrites form value answers : Except (Failure E) R) = .error (.cache error) := by
  cases first : firstError? answers with
  | none => exact .inl ⟨first_error_none answers first, by rw [afterWrites, first]⟩
  | some error =>
      obtain ⟨place, fails⟩ := first_error_some answers error first
      exact .inr ⟨place, error, fails, by rw [afterWrites, first]⟩

section Stored

variable [DecidableEq K]

-- Writes in order: so many tiers have taken the value, and either these are all, or the next one failed and ended the call.
structure StoredInOrder (form : ResultForm V R) (key : K) (value : V) (count filled : Nat) (before after : Nat → K → Option V)
    (result : Except (Failure E) R) (puts : List (Act V A)) : Prop where
  inside : ∀ place, place < filled → after place = Function.update (before place) key (some value)
  outside : ∀ place, filled ≤ place → after place = before place
  holders : ∀ place, place < count → before place key = none → (after place key = some value ↔ place < filled)
  ends : filled = count ∧ result = .ok (form.ofValue value) ∧
      puts = Act.outcomes value 0 (List.replicate filled (.ok ())) ∨
    filled < count ∧ ∃ error, result = .error (.cache error) ∧
      puts = Act.outcomes value 0 (List.replicate filled (.ok ()) ++ [.error error])

-- Writes side by side: each tier was written to once, and has taken the value where its own write succeeded.
structure StoredTogether (form : ResultForm V R) (key : K) (value : V) (count : Nat) (answers : List (Except CacheError Unit))
    (before after : Nat → K → Option V) (result : Except (Failure E) R) (puts : List (Act V A)) : Prop where
  all : answers.length = count
  issued : puts.Perm (Act.outcomes value 0 answers)
  inside : ∀ place answer, answers[place]? = some answer → after place = taken key value answer (before place)
  outside : ∀ place, count ≤ place → after place = before place
  holders : ∀ place, place < count → before place key = none →
    (after place key = some value ↔ answers[place]? = some (.ok ()))
  ends : (∀ answer ∈ answers, answer = .ok ()) ∧ result = .ok (form.ofValue value) ∨
    ∃ place error, FailsFirst answers place error ∧ result = .error (.cache error)

theorem in_order_holders {key : K} {value : V} {filled place : Nat} {before after : Nat → K → Option V}
    (inside : ∀ place, place < filled → after place = Function.update (before place) key (some value))
    (outside : ∀ place, filled ≤ place → after place = before place) (absent : before place key = none) :
    after place key = some value ↔ place < filled := by
  by_cases below : place < filled
  · rw [inside place below, Function.update_self]
    exact iff_of_true rfl below
  · rw [outside place (Nat.le_of_not_lt below), absent]
    exact iff_of_false (Option.some_ne_none value).symm below

theorem together_holders {key : K} {value : V} {place : Nat} {answers : List (Except CacheError Unit)}
    {before after : Nat → K → Option V}
    (inside : ∀ place answer, answers[place]? = some answer → after place = taken key value answer (before place))
    (within : place < answers.length) (absent : before place key = none) :
    after place key = some value ↔ answers[place]? = some (.ok ()) := by
  have found : answers[place]? = some answers[place] := List.getElem?_eq_getElem within
  rw [inside place _ found, found]
  cases answers[place] with
  | ok done => simp [taken]
  | error error => simp [taken, absent]

variable (holdings : Holdings W (Nat → K → Option V))

theorem in_order_stored (operation : String) (form : ResultForm V R) (key : K) (tiers : List (Tier W K V)) (result : R)
    (value : V) (context : Context (Watched W V A)) (valued : form.toValue? result = some value)
    (stack : Placed holdings.Stores 0 tiers) (valid : holdings.valid context.world.world) :
    let ended := handOnInOrder (E := E) operation form key (watchedFrom 0 tiers) (.ok result, context)
    ∃ filled puts, ended.2.world.trail = context.world.trail ++ puts ∧
      StoredInOrder form key value tiers.length filled (holdings.contents context.world.world)
        (holdings.contents ended.2.world.world) ended.1 puts := by
  obtain ⟨filled, ⟨_, inside, outside⟩, ends⟩ := fill_stores holdings operation .store key value 0 tiers context stack valid
  intro ended
  have begun : ended = _ := hand_on_in_order_value operation form key (watchedFrom 0 tiers) result value context valued
  generalize fill operation .store key value (watchedFrom 0 tiers) context = written at begun inside outside ends
  obtain ⟨answer, now⟩ := written
  have here : ended.2 = now := by rw [begun, after_fill_context]
  rw [here]
  have within : ∀ place, place < filled → holdings.contents now.world.world place =
      Function.update (holdings.contents context.world.world place) key (some value) :=
    fun place below => inside place (Nat.zero_le place) (by simpa using below)
  have beyond : ∀ place, filled ≤ place →
      holdings.contents now.world.world place = holdings.contents context.world.world place :=
    fun place above => outside place (.inr (by simpa using above))
  have holders (place : Nat) (_ : place < tiers.length) (absent : holdings.contents context.world.world place key = none) :=
    in_order_holders within beyond absent
  rcases ends with ⟨all, rfl, trail⟩ | ⟨some, error, rfl, trail⟩
  · exact ⟨filled, _, trail, within, beyond, holders, .inl ⟨all, congrArg Prod.fst begun, rfl⟩⟩
  · exact ⟨filled, _, trail, within, beyond, holders, .inr ⟨some, error, congrArg Prod.fst begun, rfl⟩⟩

theorem together_stored (operation : String) (form : ResultForm V R) (key : K) (tiers : List (Tier W K V)) (result : R)
    (value : V) (context : Context (Watched W V A)) (valued : form.toValue? result = some value)
    (stack : Placed holdings.StoresLate 0 tiers) (valid : holdings.valid context.world.world) :
    let ended := (handOn (E := E) operation form key (watchedFrom 0 tiers) (.ok result)).run context
    ∃ answers puts, ended.2.world.trail = context.world.trail ++ puts ∧
      StoredTogether form key value tiers.length answers (holdings.contents context.world.world)
        (holdings.contents ended.2.world.world) ended.1.result puts := by
  obtain ⟨puts, all, longer, perm, inside, outside⟩ := write_all_taken holdings operation .store none key value tiers context
    stack valid
  rw [all] at outside
  intro ended
  have begun : ended = _ := hand_on_value operation form key (watchedFrom 0 tiers) result value context valued
  rw [begun]
  exact ⟨_, puts, longer, all, perm, inside, outside, fun place below => together_holders inside (all ▸ below),
    after_writes_result form value _⟩

-- Both ways of resolving, each beside the same resolution watched. The origin leaves what the tiers hold alone.
theorem total_miss_stores_value (operation : String) (form : ResultForm V R) (key : K) (tiers : List (Tier W K V))
    (result : R) (value : V) (context : Context W) (valued : form.toValue? result = some value)
    (valid : holdings.valid context.world) :
    (∀ (origin : W → Except (Failure E) R × W) (met asked : W), 2 ≤ tiers.length →
      (∀ place tier, tiers[place]? = some tier → holdings.Stores place tier) →
      Lacking (fun tier => tier.get key) tiers context.world met → origin met = (.ok result, asked) →
      holdings.Still met asked →
      let plain := blocking operation form key tiers origin context
      let watched := blocking operation form key (watchedFrom 0 tiers) (Watched.act .asks .gave origin)
        (⟨⟨context.world, []⟩, context.metrics⟩ : Context (Watched W V (Except (Failure E) R)))
      (watched.1 = plain.1 ∧ watched.2.world.world = plain.2.world) ∧
      ∃ filled puts, watched.2.world.trail = Act.missing tiers.length (.ok result) ++ puts ∧
        StoredInOrder form key value tiers.length filled (holdings.contents context.world)
          (holdings.contents plain.2.world) plain.1 puts) ∧
    ∀ (handle current : Bool) (origin : Job W (Except (Failure E) R)) (met asked : W), tiers ≠ [] →
      (∀ place tier, tiers[place]? = some tier → holdings.StoresLate place tier) →
      Lacking (fun tier => (tier.getAsync key).run) tiers context.world met → origin.run met = (.ok result, asked) →
      holdings.Still met asked →
      let plain := (suspending operation form key tiers handle current origin).run context
      let watched := (suspending operation form key (watchedFrom 0 tiers) handle current (origin.watched .asks .gave)).run
        (⟨⟨context.world, []⟩, context.metrics⟩ : Context (Watched W V (Except (Failure E) R)))
      (watched.1.result = plain.1.result ∧ watched.2.world.world = plain.2.world) ∧ plain.1.dispatched = none ∧
      ∃ answers puts, watched.2.world.trail = Act.missing tiers.length (.ok result) ++ puts ∧
        StoredTogether form key value tiers.length answers (holdings.contents context.world)
          (holdings.contents plain.2.world) plain.1.result puts := by
  constructor
  · intro origin met asked several stack lacking gives still plain watched
    have erased : watched.1 = plain.1 ∧ watched.2.world.world = plain.2.world ∧ _ :=
      blocking_watched operation form key tiers origin context []
    obtain ⟨answered, world, _⟩ := erased
    have placed := placed_stack stack
    have tall : 2 ≤ (watchedFrom 0 tiers : List (Tier (Watched W V (Except (Failure E) R)) K V)).length := by
      rwa [watched_from_length]
    have begun : watched = _ := blocking_through operation form key _ _ _ tall
    rw [through_tiers_missed_watched operation form key tiers origin _ met context.metrics lacking, gives] at begun
    have unmoved := lacking_still holdings lacking fun tier member now =>
      (placed_mem placed tier member).elim fun _ stores => stores.get key now
    obtain ⟨lawful, kept⟩ := holdings.composes_still.trans _ _ _ unmoved still valid
    obtain ⟨filled, puts, trail, stored⟩ := in_order_stored (E := E) holdings operation form key tiers result value
      (⟨⟨asked, Act.missing tiers.length (.ok result)⟩, _⟩ : Context (Watched W V (Except (Failure E) R))) valued placed lawful
    rw [← begun] at trail stored
    rw [world, answered, kept] at stored
    exact ⟨⟨answered, world⟩, filled, puts, trail, stored⟩
  · intro handle current origin met asked inhabited stack lacking gives still plain watched
    have erased : OutcomeMatched Watched.Erases Eq watched.1 plain.1 ∧ watched.2.world.world = plain.2.world ∧ _ :=
      suspending_watched operation form key tiers handle current origin context []
    obtain ⟨⟨answered, _⟩, world, _⟩ := erased
    have placed := placed_stack stack
    have unwatched : plain = _ := suspending_missed operation form key tiers handle current origin context.world met
      context.metrics inhabited lacking
    rw [gives, hand_on_value operation form key tiers result value _ valued] at unwatched
    have begun : watched = _ := suspending_missed_watched operation form key tiers handle current origin context.world met
      context.metrics inhabited lacking
    rw [gives] at begun
    have unmoved := lacking_still holdings lacking fun tier member now =>
      (placed_mem placed tier member).elim fun _ stores => stores.getAsync key now
    obtain ⟨lawful, kept⟩ := holdings.composes_still.trans _ _ _ unmoved still valid
    obtain ⟨answers, puts, trail, stored⟩ := together_stored (E := E) holdings operation form key tiers result value
      (⟨⟨asked, Act.missing tiers.length (.ok result)⟩, _⟩ : Context (Watched W V (Except (Failure E) R))) valued placed lawful
    rw [← begun] at trail stored
    rw [world, answered, kept] at stored
    exact ⟨⟨answered, world⟩, by rw [unwatched]; rfl, answers, puts, trail, stored⟩

theorem full_tier_stands_alone :
    let tiers := fullNearer ++ [World.tier ⟨2, "far"⟩]
    let inOrder := blocking (E := String) "load" ResultForm.plain (.int 2) tiers (Session.originAction (.ok (.int 9))) fullStart
    let together := (suspending (E := String) "load" ResultForm.plain (.int 2) tiers false true
      (Session.originJob (.ok (.int 9)) 1)).run fullStart
    let held := (World.stock [0, 1, 2]).contents
    (inOrder.1 = .error (.cache (.tier "middle" "full")) ∧ held inOrder.2.world 0 (.int 2) = some (.int 9) ∧
      held inOrder.2.world 1 = held fullStart.world 1 ∧ held inOrder.2.world 2 = held fullStart.world 2) ∧
    together.1.result = .error (.cache (.tier "middle" "full")) ∧ held together.2.world 0 (.int 2) = some (.int 9) ∧
      held together.2.world 1 = held fullStart.world 1 ∧ held together.2.world 2 (.int 2) = some (.int 9) := by
  intro tiers inOrder together held
  have failed : inOrder.1 = .error (.cache (.tier "middle" "full")) := by rfl
  have failedLate : together.1.result = .error (.cache (.tier "middle" "full")) := by rfl
  have stack := full_stack (World.stock [0, 1, 2]).Stores (World.tier_stores _ 0 (by decide) rfl)
    (World.tier_stores _ 1 (by decide) rfl) (World.tier_stores _ 2 (by decide) rfl)
  have stackLate := full_stack (World.stock [0, 1, 2]).StoresLate (World.tier_stores_late _ 0 (by decide) rfl)
    (World.tier_stores_late _ 1 (by decide) rfl) (World.tier_stores_late _ 2 (by decide) rfl)
  have lacking : Lacking (fun tier => tier.get (.int 2)) tiers fullStart.world _ :=
    .cons _ _ _ _ _ rfl (.cons _ _ _ _ _ rfl (.cons _ _ _ _ _ rfl (.nil _)))
  have lackingLate : Lacking (fun tier => (tier.getAsync (.int 2)).run) tiers fullStart.world _ :=
    .cons _ _ _ _ _ rfl (.cons _ _ _ _ _ rfl (.cons _ _ _ _ _ rfl (.nil _)))
  obtain ⟨ordered, apart⟩ := total_miss_stores_value (E := String) (World.stock [0, 1, 2]) "load" ResultForm.plain (.int 2) tiers
    (.int 9) (.int 9) fullStart rfl full_valid
  constructor
  · obtain ⟨_, filled, puts, trail, stored⟩ := ordered (Session.originAction (.ok (.int 9))) _ _ (by decide) stack lacking rfl
      (fun valid => ⟨valid, rfl⟩)
    have acts : (blocking (E := String) "load" ResultForm.plain (.int 2) (watchedFrom 0 tiers)
        (Watched.act .asks .gave (Session.originAction (.ok (.int 9))))
        ⟨⟨fullStart.world, []⟩, fullStart.metrics⟩).2.world.trail.length = 12 := by rfl
    rcases stored.ends with ⟨_, done, _⟩ | ⟨within, error, _, shown⟩
    · cases failed.symm.trans done
    · rw [trail, shown] at acts
      match filled, within with
      | 0, _ => simp [Act.missing, Act.absences, Act.outcomes, tiers, fullNearer, List.range_succ] at acts
      | 2, _ => simp [Act.missing, Act.absences, Act.outcomes, tiers, fullNearer, List.range_succ] at acts
      | 1, _ =>
          have near := (stored.holders 0 (by decide) rfl).mpr Nat.zero_lt_one
          exact ⟨failed, near, stored.outside 1 (Nat.le_refl 1), stored.outside 2 (Nat.le_succ 1)⟩
  · obtain ⟨_, _, answers, puts, _, stored⟩ := apart false true (Session.originJob (.ok (.int 9)) 1) _ _ (by decide)
      stackLate lackingLate rfl (fun valid => ⟨valid, rfl⟩)
    have near : held together.2.world 0 (.int 2) = some (.int 9) := by rfl
    have far : held together.2.world 2 (.int 2) = some (.int 9) := by rfl
    have tookNear := (stored.holders 0 (by decide) rfl).mp near
    have tookFar := (stored.holders 2 (by decide) rfl).mp far
    refine ⟨failedLate, near, ?_, far⟩
    -- The write that failed is that of none of the two.
    rcases stored.ends with ⟨_, done⟩ | ⟨place, error, ⟨found, _⟩, _⟩
    · cases failedLate.symm.trans done
    · have within : place < 3 := Nat.lt_of_lt_of_eq (List.getElem?_eq_some_iff.mp found).1 stored.all
      obtain rfl | rfl | rfl : place = 0 ∨ place = 1 ∨ place = 2 := by omega
      · cases tookNear.symm.trans found
      · exact stored.inside 1 (.error error) found
      · cases tookFar.symm.trans found

end Stored

end CacheTiers.Resolve
