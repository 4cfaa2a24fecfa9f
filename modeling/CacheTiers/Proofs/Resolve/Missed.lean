import CacheTiers.Proofs.Resolve.Lacking

namespace CacheTiers

variable {W K V R E A : Type}

def Act.missing (count : Nat) (given : A) : List (Act V A) := absences count ++ [.asks, .gave given]

namespace Resolve

def handOnInOrder (operation : String) (form : ResultForm V R) (key : K) (tiers : List (Tier W K V)) :
    Except (Failure E) R × Context W → Except (Failure E) R × Context W
  | (.error failure, context) => (.error failure, context)
  | (.ok result, context) =>
    match form.toValue? result with
    | some value => afterFill form value (fill operation .store key value tiers context)
    | none => (absentResult form operation, context)

def missCounted (operation : String) (tiers : List String) (metrics : Metrics) : Metrics :=
  (metrics.recordEach operation .miss tiers).recordOrigin operation

def afterWrites (form : ResultForm V R) (value : V) (written : List (Except CacheError Unit)) : Except (Failure E) R :=
  match firstError? written with
  | some error => .error (.cache error)
  | none => .ok (form.ofValue value)

theorem through_tiers_missed (operation : String) (form : ResultForm V R) (key : K) (tiers : List (Tier W K V))
    (origin : W → Except (Failure E) R × W) (first last : W) (metrics : Metrics)
    (lacking : Lacking (fun tier => tier.get key) tiers first last) :
    throughTiers operation form key tiers origin ⟨first, metrics⟩ =
      handOnInOrder operation form key tiers
        ((⟨last, missCounted operation (tiers.map Tier.name) metrics⟩ : Context W).onWorld origin) := by
  have missed := search_past operation key [] tiers [] first last metrics lacking
  rw [List.append_nil, search] at missed
  rw [throughTiers, missed]
  simp only [missCounted, Context.recordOrigin]
  rcases Context.onWorld origin _ with ⟨given, context⟩
  cases given with
  | error failure => rfl
  | ok result =>
      cases valued : form.toValue? result with
      | none => simp only [handOnInOrder, valued]
      | some value => simp only [handOnInOrder, valued]

theorem suspending_missed (operation : String) (form : ResultForm V R) (key : K) (tiers : List (Tier W K V))
    (handle current : Bool) (origin : Job W (Except (Failure E) R)) (first last : W) (metrics : Metrics)
    (inhabited : tiers ≠ []) (lacking : Lacking (fun tier => (tier.getAsync key).run) tiers first last) :
    (suspending operation form key tiers handle current origin).run ⟨first, metrics⟩ =
      (handOn operation form key tiers (origin.run last).1).run
        ⟨(origin.run last).2, missCounted operation (tiers.map Tier.name) metrics⟩ := by
  have missed := search_async_past operation key [] tiers [] first last metrics lacking
  rw [List.append_nil, searchAsync, Job.run_pure] at missed
  have someTier : tiers.isEmpty = false := List.isEmpty_eq_false_iff.mpr inhabited
  rw [suspending, someTier, if_neg Bool.false_ne_true, Job.run_bind, missed]
  simp only [Job.run_bind, Job.run_modify, Job.run_on_world, Context.recordOrigin]
  rcases origin.run last with ⟨given, asked⟩
  cases given with
  | error failure => rfl
  | ok result =>
      simp only [handOn]
      cases form.toValue? result with
      | none => rfl
      | some value => rfl

theorem hand_on_in_order_value (operation : String) (form : ResultForm V R) (key : K) (tiers : List (Tier W K V)) (result : R)
    (value : V) (context : Context W) (valued : form.toValue? result = some value) :
    handOnInOrder (E := E) operation form key tiers (.ok result, context) =
      afterFill form value (fill operation .store key value tiers context) := by
  rw [handOnInOrder, valued]

theorem hand_on_value (operation : String) (form : ResultForm V R) (key : K) (tiers : List (Tier W K V)) (result : R)
    (value : V) (context : Context W) (valued : form.toValue? result = some value) :
    (handOn (E := E) operation form key tiers (.ok result)).run context =
      let ended := (writeAll operation .store none key value tiers).run context
      (.only (afterWrites form value ended.1), ended.2) := by
  simp only [handOn, valued, Job.run_bind, afterWrites]
  cases firstError? ((writeAll operation .store none key value tiers).run context).1 with
  | none => rfl
  | some error => rfl

theorem through_tiers_missed_watched (operation : String) (form : ResultForm V R) (key : K) (tiers : List (Tier W K V))
    (origin : W → Except (Failure E) R × W) (first last : W) (metrics : Metrics)
    (lacking : Lacking (fun tier => tier.get key) tiers first last) :
    throughTiers operation form key (watchedFrom 0 tiers) (Watched.act .asks .gave origin) ⟨⟨first, []⟩, metrics⟩ =
      handOnInOrder operation form key (watchedFrom 0 tiers) ((origin last).1,
        (⟨⟨(origin last).2, Act.missing tiers.length (origin last).1⟩,
          missCounted operation (tiers.map Tier.name) metrics⟩ : Context (Watched W V (Except (Failure E) R)))) := by
  have seen := lacking_watched (A := Except (Failure E) R) (fun tier => tier.get key) 0 (fun _ _ _ => rfl) lacking
  have ran := through_tiers_missed operation form key _ (Watched.act .asks .gave origin) _ _ metrics seen
  rw [watched_from_names, Watched.on_world_act, Nat.zero_add] at ran
  exact ran

theorem suspending_missed_watched (operation : String) (form : ResultForm V R) (key : K) (tiers : List (Tier W K V))
    (handle current : Bool) (origin : Job W (Except (Failure E) R)) (first last : W) (metrics : Metrics)
    (inhabited : tiers ≠ []) (lacking : Lacking (fun tier => (tier.getAsync key).run) tiers first last) :
    (suspending operation form key (watchedFrom 0 tiers) handle current (origin.watched .asks .gave)).run
        ⟨⟨first, []⟩, metrics⟩ =
      (handOn operation form key (watchedFrom 0 tiers) (origin.run last).1).run
        (⟨⟨(origin.run last).2, Act.missing tiers.length (origin.run last).1⟩,
          missCounted operation (tiers.map Tier.name) metrics⟩ : Context (Watched W V (Except (Failure E) R))) := by
  have seen := lacking_watched (A := Except (Failure E) R) (fun tier => (tier.getAsync key).run) 0
    (fun spot tier now => Job.run_watched (.reads spot) (.read spot) (tier.getAsync key) now) lacking
  have some : (watchedFrom 0 tiers : List (Tier (Watched W V (Except (Failure E) R)) K V)) ≠ [] := by
    simpa [← List.length_eq_zero_iff, watched_from_length] using inhabited
  have ran := suspending_missed operation form key _ handle current (origin.watched .asks .gave) _ _ metrics some seen
  rw [watched_from_names, Job.run_watched, Nat.zero_add] at ran
  exact ran

end Resolve

end CacheTiers
