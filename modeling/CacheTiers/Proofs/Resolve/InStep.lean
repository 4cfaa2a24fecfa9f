import CacheTiers.Operation
import CacheTiers.Proofs.Job.InStep
import CacheTiers.Proofs.Resolve.Counting

namespace CacheTiers

variable {W U K V R E A B : Type}

def Consult.InStep (rel : W → U → Prop) : Consult W V → Consult U V → Prop
  | .answer outcome world, .answer other beside => outcome = other ∧ rel world beside
  | .ask resume world, .ask other beside =>
    rel world beside ∧
      ∀ told later besideLater, rel later besideLater → Alike rel Eq (resume told later) (other told besideLater)
  | _, _ => False

theorem Consult.in_step_ends {rel : W → U → Prop} {first : Consult W V} {second : Consult U V}
    (inStep : first.InStep rel second) :
    (∃ outcome world beside, first = .answer outcome world ∧ second = .answer outcome beside ∧ rel world beside) ∨
      ∃ resume world other beside, first = .ask resume world ∧ second = .ask other beside ∧ rel world beside ∧
        ∀ told later besideLater, rel later besideLater → Alike rel Eq (resume told later) (other told besideLater) := by
  cases first with
  | answer outcome world =>
      cases second with
      | answer other beside =>
          obtain ⟨rfl, related⟩ := inStep
          exact .inl ⟨_, world, beside, rfl, rfl, related⟩
      | ask other beside => exact inStep.elim
  | ask resume world =>
      cases second with
      | answer outcome beside => exact inStep.elim
      | ask other beside => exact .inr ⟨resume, world, other, beside, rfl, rfl, inStep⟩

structure Tier.InStep (rel : W → U → Prop) (first : Tier W K V) (second : Tier U K V) : Prop where
  get : ∀ key world beside, rel world beside → Alike rel Eq (first.get key world) (second.get key beside)
  put : ∀ key value world beside, rel world beside → Alike rel Eq (first.put key value world) (second.put key value beside)
  compute : ∀ key world beside, rel world beside →
    (first.computeIfAbsent key world).InStep rel (second.computeIfAbsent key beside)
  getAsync : ∀ key, Job.InStep rel Eq (first.getAsync key) (second.getAsync key)
  putAsync : ∀ key value, Job.InStep rel Eq (first.putAsync key value) (second.putAsync key value)

variable {rel : W → U → Prop} {alike : String → String → Prop} {tally : Metrics → Metrics → Prop}

-- What was counted is related again after counting, for tiers whose names are alike.
structure Metrics.Tallies (alike : String → String → Prop) (tally : Metrics → Metrics → Prop) : Prop where
  record : ∀ operation name other event first second, alike name other → tally first second →
    tally (first.record ⟨operation, name, event⟩) (second.record ⟨operation, other, event⟩)
  origin : alike originName originName

theorem Metrics.any_tallies : Metrics.Tallies (fun _ _ => True) fun _ _ => True :=
  ⟨fun _ _ _ _ _ _ _ _ => trivial, trivial⟩

theorem Metrics.same_tallies : Metrics.Tallies Eq Eq := by
  refine ⟨?_, rfl⟩
  rintro operation name _ event metrics _ rfl rfl
  rfl

theorem Context.on_world_alike (first : W → A × W) (second : U → A × U) (context : Context W) (beside : Context U)
    (acted : Alike rel Eq (first context.world) (second beside.world)) (tallied : tally context.metrics beside.metrics) :
    Alike (Context.Matched rel tally) Eq (context.onWorld first) (beside.onWorld second) :=
  ⟨acted.1, acted.2, tallied⟩

theorem Context.record_matched (tallies : Metrics.Tallies alike tally) (operation name other : String) (event : Event)
    (context : Context W) (beside : Context U) (named : alike name other)
    (matched : Context.Matched rel tally context beside) :
    Context.Matched rel tally (context.record operation name event) (beside.record operation other event) :=
  ⟨matched.1, tallies.record operation name other event _ _ named matched.2⟩

theorem Context.record_origin_matched (tallies : Metrics.Tallies alike tally) (operation : String)
    (context : Context W) (beside : Context U) (matched : Context.Matched rel tally context beside) :
    Context.Matched rel tally (context.recordOrigin operation) (beside.recordOrigin operation) :=
  ⟨matched.1, tallies.record operation _ _ .call _ _ tallies.origin matched.2⟩

theorem Tier.get_then_put_in_step (get : K → W → Lookup V × W) (other : K → U → Lookup V × U)
    (put : K → V → W → Except CacheError Unit × W) (otherPut : K → V → U → Except CacheError Unit × U) (key : K)
    (world : W) (beside : U) (gets : Alike rel Eq (get key world) (other key beside))
    (puts : ∀ value world beside, rel world beside → Alike rel Eq (put key value world) (otherPut key value beside)) :
    (Tier.getThenPut get put key world).InStep rel (Tier.getThenPut other otherPut key beside) := by
  rw [Tier.getThenPut, Tier.getThenPut]
  obtain ⟨answer, after, besideAfter, here, there, related⟩ := alike_ends gets
  rw [here, there]
  cases answer with
  | error error => exact ⟨rfl, related⟩
  | ok found =>
      cases found with
      | some value => exact ⟨rfl, related⟩
      | none =>
          refine ⟨related, ?_⟩
          intro told later besideLater still
          cases told with
          | error error => exact ⟨rfl, still⟩
          | ok held =>
              cases held with
              | none => exact ⟨rfl, still⟩
              | some value =>
                  obtain ⟨answer, final, besideFinal, here, there, stored⟩ := alike_ends (puts value later besideLater still)
                  simp only [Tier.keep, here, there]
                  cases answer with
                  | error error => exact ⟨rfl, stored⟩
                  | ok done => exact ⟨rfl, stored⟩

namespace Resolve

abbrev Stacks (rel : W → U → Prop) (first : List (Tier W K V)) (second : List (Tier U K V)) : Prop := List.Forall₂
    (Tier.InStep rel) first second

abbrev Twins (rel : W → U → Prop) (alike : String → String → Prop) (first : List (Tier W K V))
    (second : List (Tier U K V)) : Prop :=
  List.Forall₂ (fun tier other => tier.InStep rel other ∧ alike tier.name other.name) first second

def FoundAlike (rel : W → U → Prop) (alike : String → String → Prop) :
    Except CacheError (Found W K V) → Except CacheError (Found U K V) → Prop
  | .error error, .error other => error = other
  | .ok (.hit nearer value), .ok (.hit passed other) => value = other ∧ Twins rel alike nearer passed
  | .ok .miss, .ok .miss => True
  | _, _ => False

theorem found_alike_ends {found : Except CacheError (Found W K V)} {other : Except CacheError (Found U K V)}
    (ended : FoundAlike rel alike found other) :
    (∃ error, found = .error error ∧ other = .error error) ∨
      (∃ nearer passed value, found = .ok (.hit nearer value) ∧ other = .ok (.hit passed value) ∧
        Twins rel alike nearer passed) ∨
        found = .ok .miss ∧ other = .ok .miss := by
  rcases found with error | ⟨nearer, value⟩ | _
  · rcases other with error | ⟨passed, value⟩ | _
    · exact .inl ⟨_, rfl, congrArg Except.error ended.symm⟩
    · exact ended.elim
    · exact ended.elim
  · rcases other with error | ⟨passed, value⟩ | _
    · exact ended.elim
    · obtain ⟨rfl, behind⟩ := ended
      exact .inr (.inl ⟨nearer, passed, _, rfl, rfl, behind⟩)
    · exact ended.elim
  · rcases other with error | ⟨passed, value⟩ | _
    · exact ended.elim
    · exact ended.elim
    · exact .inr (.inr ⟨rfl, rfl⟩)

-- The work that was dispatched may start later than the resolution ends.
def OutcomeAlike (rel : W → U → Prop) (first : Outcome W K V R E) (second : Outcome U K V R E) : Prop :=
  first.result = second.result ∧ ∀ context beside, Context.Related rel context beside →
    Context.Related rel (settleDispatched first.dispatched context) (settleDispatched second.dispatched beside)

def OutcomeMatched (rel : W → U → Prop) (tally : Metrics → Metrics → Prop) (first : Outcome W K V R E)
    (second : Outcome U K V R E) : Prop :=
  first.result = second.result ∧ ∀ context beside, Context.Matched rel tally context beside →
    Context.Matched rel tally (settleDispatched first.dispatched context) (settleDispatched second.dispatched beside)

theorem outcome_matched_any (rel : W → U → Prop) :
    OutcomeMatched (K := K) (V := V) (R := R) (E := E) rel (fun _ _ => True) = OutcomeAlike rel := by
  funext first second
  simp only [OutcomeMatched, OutcomeAlike, Context.matched_any]

theorem only_matched (result : Except (Failure E) R) :
    OutcomeMatched rel tally (Outcome.only result : Outcome W K V R E) (Outcome.only result : Outcome U K V R E) :=
  ⟨rfl, fun _ _ matched => matched⟩

theorem after_fill_alike (form : ResultForm V R) (value : V) (first : Except CacheError Unit × Context W)
    (second : Except CacheError Unit × Context U)
    (ended : Alike (Context.Matched rel tally) Eq first second) :
    Alike (Context.Matched rel tally) Eq (afterFill (E := E) form value first) (afterFill form value second) := by
  obtain ⟨answer, after⟩ := first
  obtain ⟨given, besideAfter⟩ := second
  obtain ⟨same, still⟩ := ended
  dsimp only at same
  subst same
  cases answer with
  | error error => exact ⟨rfl, still⟩
  | ok done => exact ⟨rfl, still⟩

theorem counted_in_step {same : A → B → Prop} {first : Context W → Context W} {second : Context U → Context U}
    {both : Context W → Context U → Prop} {next : Job (Context W) A} {other : Job (Context U) B}
    (inStep : Job.InStep both same next other)
    (counts : ∀ context beside, both context beside → both (first context) (second beside)) :
    Job.InStep both same (Job.modify first >>= fun _ => next) (Job.modify second >>= fun _ => other) := by
  exact Job.bind_in_step _ _ _ _ (Job.modify_in_step first second counts) fun _ _ _ => inStep

section Counted

variable (tallies : Metrics.Tallies alike tally)

include tallies

theorem search_alike (operation : String) (key : K) (nearer : List (Tier W K V)) (passed : List (Tier U K V))
    (first : List (Tier W K V)) (second : List (Tier U K V))
    (context : Context W) (beside : Context U) (behind : Twins rel alike nearer passed) (stack : Twins rel alike first second)
    (matched : Context.Matched rel tally context beside) :
    Alike (Context.Matched rel tally) (FoundAlike rel alike) (search operation key nearer first context)
      (search operation key passed second beside) := by
  induction stack generalizing nearer passed context beside with
  | nil => exact ⟨trivial, matched⟩
  | @cons tier other first second twin stack ih =>
      have read := Context.on_world_alike (tier.get key) (other.get key) context beside (twin.1.get key _ _ matched.1) matched.2
      rw [search, search]
      obtain ⟨answer, after, besideAfter, here, there, still⟩ := alike_ends read
      rw [here, there]
      cases answer with
      | error error => exact ⟨rfl, still⟩
      | ok found =>
          cases found with
          | some value => exact ⟨⟨rfl, behind⟩, Context.record_matched tallies operation _ _ .hit _ _ twin.2 still⟩
          | none =>
              exact ih _ _ _ _ (List.rel_append behind (.cons twin .nil))
                (Context.record_matched tallies operation _ _ .miss _ _ twin.2 still)

theorem fill_alike (operation : String) (event : Event) (key : K) (value : V) (first : List (Tier W K V))
    (second : List (Tier U K V))
    (context : Context W) (beside : Context U) (stack : Twins rel alike first second)
    (matched : Context.Matched rel tally context beside) :
    Alike (Context.Matched rel tally) Eq (fill operation event key value first context)
      (fill operation event key value second beside) := by
  induction stack generalizing context beside with
  | nil => exact ⟨rfl, matched⟩
  | @cons tier other first second twin stack ih =>
      have written := Context.on_world_alike (tier.put key value) (other.put key value) context beside
        (twin.1.put key value _ _ matched.1) matched.2
      rw [fill, fill]
      obtain ⟨answer, after, besideAfter, here, there, still⟩ := alike_ends written
      rw [here, there]
      cases answer with
      | error error => exact ⟨rfl, still⟩
      | ok done => exact ih _ _ (Context.record_matched tallies operation _ _ event _ _ twin.2 still)

theorem through_tiers_alike (operation : String) (form : ResultForm V R) (key : K) (first : List (Tier W K V))
    (second : List (Tier U K V))
    (origin : W → Except (Failure E) R × W) (other : U → Except (Failure E) R × U) (context : Context W)
    (beside : Context U) (stack : Twins rel alike first second)
    (asks : ∀ world beside, rel world beside → Alike rel Eq (origin world) (other beside))
    (matched : Context.Matched rel tally context beside) :
    Alike (Context.Matched rel tally) Eq (throughTiers operation form key first origin context)
      (throughTiers operation form key second other beside) := by
  have searched := search_alike tallies operation key [] [] first second context beside .nil stack matched
  rw [throughTiers, throughTiers]
  rcases here : search operation key [] first context with ⟨outcome, after⟩
  rcases there : search operation key [] second beside with ⟨given, besideAfter⟩
  rw [here, there] at searched
  obtain ⟨found, still⟩ := searched
  rcases found_alike_ends found with ⟨error, rfl, rfl⟩ | ⟨nearer, passed, value, rfl, rfl, behind⟩ | ⟨rfl, rfl⟩
  · exact ⟨rfl, still⟩
  · exact after_fill_alike form value _ _ (fill_alike tallies operation .backfill key value _ _ _ _ behind still)
  · have counted := Context.record_origin_matched tallies operation after besideAfter still
    have asked := Context.on_world_alike origin other (after.recordOrigin operation) (besideAfter.recordOrigin operation)
      (asks _ _ counted.1) counted.2
    dsimp only
    obtain ⟨outcome, later, besideLater, here, there, reached⟩ := alike_ends asked
    rw [here, there]
    cases outcome with
    | error failure => exact ⟨rfl, reached⟩
    | ok result =>
        dsimp only
        cases form.toValue? result with
        | none => exact ⟨rfl, reached⟩
        | some value =>
            exact after_fill_alike form value _ _ (fill_alike tallies operation .store key value _ _ _ _ stack reached)

theorem after_consult_alike (operation name other : String) (form : ResultForm V R) (event : Event) (value : Option V)
    (context : Context W) (beside : Context U) (named : alike name other)
    (matched : Context.Matched rel tally context beside) :
    Alike (Context.Matched rel tally) Eq (afterConsult (E := E) operation name form event value context)
      (afterConsult operation other form event value beside) := by
  cases value with
  | none => exact ⟨rfl, Context.record_matched tallies operation _ _ .miss _ _ named matched⟩
  | some value => exact ⟨rfl, Context.record_matched tallies operation _ _ event _ _ named matched⟩

theorem after_resume_alike (operation name other : String) (form : ResultForm V R) (given : Except (Failure E) R)
    (first : Lookup V × Context W) (second : Lookup V × Context U) (named : alike name other)
    (resumed : Alike (Context.Matched rel tally) Eq first second) :
    Alike (Context.Matched rel tally) Eq (afterResume operation name form given first)
      (afterResume operation other form given second) := by
  obtain ⟨answer, final, besideFinal, rfl, rfl, last⟩ := alike_ends resumed
  cases answer with
  | error error => exact ⟨rfl, last⟩
  | ok value =>
      cases given with
      | error failure => exact ⟨rfl, last⟩
      | ok result => exact after_consult_alike tallies operation name other form .store value _ _ named last

theorem through_one_alike (operation : String) (form : ResultForm V R) (key : K) (first : Tier W K V)
    (second : Tier U K V)
    (origin : W → Except (Failure E) R × W) (other : U → Except (Failure E) R × U) (context : Context W)
    (beside : Context U) (inStep : first.InStep rel second) (named : alike first.name second.name)
    (asks : ∀ world beside, rel world beside → Alike rel Eq (origin world) (other beside))
    (matched : Context.Matched rel tally context beside) :
    Alike (Context.Matched rel tally) Eq (throughOne operation form key first origin context)
      (throughOne operation form key second other beside) := by
  have consulted := inStep.compute key context.world beside.world matched.1
  rcases Consult.in_step_ends consulted with ⟨outcome, world, besideWorld, here, there, still⟩ |
    ⟨resume, world, otherwise, besideWorld, here, there, still, resumes⟩
  · rw [throughOne, throughOne, here, there]
    cases outcome with
    | error error => exact ⟨rfl, still, matched.2⟩
    | ok value =>
        exact after_consult_alike tallies operation first.name second.name form .hit value _ _ named ⟨still, matched.2⟩
  · rw [through_one_asked operation form key first origin context resume world here,
      through_one_asked operation form key second other beside otherwise besideWorld there]
    obtain ⟨outcome, later, besideLater, here, there, reached⟩ := alike_ends (asks world besideWorld still)
    rw [here, there]
    exact after_resume_alike tallies operation first.name second.name form outcome _ _ named
      (Context.on_world_alike _ _ _ _ (resumes (.ok (offered form outcome)) later besideLater reached)
        (tallies.record operation _ _ .call _ _ tallies.origin matched.2))

theorem blocking_alike (operation : String) (form : ResultForm V R) (key : K) (first : List (Tier W K V))
    (second : List (Tier U K V))
    (origin : W → Except (Failure E) R × W) (other : U → Except (Failure E) R × U) (context : Context W)
    (beside : Context U) (stack : Twins rel alike first second)
    (asks : ∀ world beside, rel world beside → Alike rel Eq (origin world) (other beside))
    (matched : Context.Matched rel tally context beside) :
    Alike (Context.Matched rel tally) Eq (blocking operation form key first origin context)
      (blocking operation form key second other beside) := by
  cases stack with
  | nil => exact ⟨rfl, matched⟩
  | @cons tier given first second twin stack =>
      cases stack with
      | nil =>
          exact through_one_alike tallies operation form key tier given origin other context beside twin.1 twin.2 asks matched
      | cons next stack =>
          exact through_tiers_alike tallies operation form key _ _ origin other context beside
            (.cons twin (.cons next stack)) asks matched

theorem search_async_in_step (operation : String) (key : K) (nearer : List (Tier W K V)) (passed : List (Tier U K V))
    (first : List (Tier W K V)) (second : List (Tier U K V)) (behind : Twins rel alike nearer passed)
    (stack : Twins rel alike first second) :
    Job.InStep (Context.Matched rel tally) (FoundAlike rel alike) (searchAsync operation key nearer first)
      (searchAsync operation key passed second) := by
  induction stack generalizing nearer passed with
  | nil => exact Job.pure_in_step _ _ trivial
  | @cons tier other first second twin stack ih =>
      have counts (event : Event) (context : Context W) (beside : Context U)
          (matched : Context.Matched rel tally context beside) :
          Context.Matched rel tally (context.record operation tier.name event) (beside.record operation other.name event) :=
        Context.record_matched tallies operation _ _ event context beside twin.2 matched
      rw [searchAsync, searchAsync]
      apply Job.bind_in_step _ _ _ _ (Job.on_world_in_step _ _ (twin.1.getAsync key))
      rintro answer _ rfl
      cases answer with
      | error error => exact Job.pure_in_step _ _ rfl
      | ok found =>
          cases found with
          | some value => exact counted_in_step (Job.pure_in_step _ _ ⟨rfl, behind⟩) (counts .hit)
          | none =>
              have onward := ih (nearer ++ [tier]) (passed ++ [other]) (List.rel_append behind (.cons twin .nil))
              exact counted_in_step onward (counts .miss)

theorem settle_matched (operation : String) (onSuccess : Event) (onFailure : Option Event) (first : List (Tier W K V))
    (second : List (Tier U K V)) (answers : List (Except CacheError Unit)) (context : Context W) (beside : Context U)
    (stack : Twins rel alike first second) (matched : Context.Matched rel tally context beside) :
    Context.Matched rel tally (settle operation onSuccess onFailure (first.zip answers) context)
      (settle operation onSuccess onFailure (second.zip answers) beside) := by
  induction stack generalizing answers context beside with
  | nil => exact matched
  | @cons tier other first second twin stack ih =>
      cases answers with
      | nil => exact matched
      | cons answer answers =>
          rw [List.zip_cons_cons, List.zip_cons_cons]
          cases answer with
          | ok done => exact ih answers _ _ (Context.record_matched tallies operation _ _ onSuccess _ _ twin.2 matched)
          | error error =>
              cases onFailure with
              | none => exact ih answers _ _ matched
              | some event => exact ih answers _ _ (Context.record_matched tallies operation _ _ event _ _ twin.2 matched)

theorem write_all_in_step (operation : String) (onSuccess : Event) (onFailure : Option Event) (key : K) (value : V)
    (first : List (Tier W K V)) (second : List (Tier U K V)) (stack : Twins rel alike first second) :
    Job.InStep (Context.Matched rel tally) Eq (writeAll operation onSuccess onFailure key value first)
      (writeAll operation onSuccess onFailure key value second) := by
  have jobs : List.Forall₂ (Job.InStep (Context.Matched rel tally) Eq) (first.map fun tier => (tier.putAsync key value).onWorld)
      (second.map fun tier => (tier.putAsync key value).onWorld) := by
    refine List.forall₂_map_left_iff.mpr (List.forall₂_map_right_iff.mpr (stack.imp ?_))
    exact fun tier other twin => Job.on_world_in_step _ _ (twin.1.putAsync key value)
  apply Job.bind_in_step _ _ _ _ (Job.all_in_step _ _ jobs)
  rintro answers _ rfl
  exact counted_in_step (Job.pure_in_step _ _ rfl) fun context beside matched =>
    settle_matched tallies operation onSuccess onFailure first second answers context beside stack matched

theorem dispatch_matched (handle current : Bool) (operation : String) (key : K) (value : V) (first : List (Tier W K V))
    (second : List (Tier U K V)) (context : Context W) (beside : Context U) (stack : Twins rel alike first second)
    (matched : Context.Matched rel tally context beside) :
    Context.Matched rel tally (dispatch handle current ⟨operation, first, key, value⟩ context).2
      (dispatch handle current ⟨operation, second, key, value⟩ beside).2 := by
  by_cases runtime : (handle || current) = true
  · rw [dispatch, dispatch, if_pos runtime, if_pos runtime]
    exact matched
  · rw [dispatch, dispatch, if_neg runtime, if_neg runtime]
    induction stack generalizing context beside with
    | nil => exact matched
    | @cons tier other first second twin stack ih =>
        exact ih _ _ (Context.record_matched tallies operation _ _ .backfillError _ _ twin.2 matched)

theorem answer_hit_matched (handle current : Bool) (form : ResultForm V R) (operation : String) (key : K) (value : V)
    (nearer : List (Tier W K V)) (passed : List (Tier U K V)) (context : Context W) (beside : Context U)
    (stack : Twins rel alike nearer passed) (matched : Context.Matched rel tally context beside) :
    Alike (Context.Matched rel tally) (OutcomeMatched rel tally)
      (answerHit (E := E) handle current form ⟨operation, nearer, key, value⟩ context)
      (answerHit handle current form ⟨operation, passed, key, value⟩ beside) := by
  have counted := dispatch_matched tallies handle current operation key value nearer passed context beside stack matched
  cases stack with
  | nil => exact ⟨only_matched _, matched⟩
  | @cons tier other nearer passed twin stack =>
      refine ⟨?_, counted⟩
      simp only [answerHit, List.isEmpty_cons, Bool.false_eq_true, if_false, dispatch]
      split
      case isTrue =>
        refine ⟨rfl, ?_⟩
        intro context beside matched
        have written := Job.run_in_step _ _ context beside
          (write_all_in_step tallies operation .backfill (some .backfillError) key value _ _ (.cons twin stack)) matched
        simp only [settle_dispatched_some]
        exact written.2
      case isFalse => exact ⟨rfl, fun _ _ matched => matched⟩

theorem hand_on_in_step (operation : String) (form : ResultForm V R) (key : K) (first : List (Tier W K V))
    (second : List (Tier U K V)) (given : Except (Failure E) R) (stack : Twins rel alike first second) :
    Job.InStep (Context.Matched rel tally) (OutcomeMatched rel tally) (handOn operation form key first given)
      (handOn operation form key second given) := by
  cases given with
  | error failure => exact Job.pure_in_step _ _ (only_matched _)
  | ok result =>
      rw [handOn, handOn]
      cases form.toValue? result with
      | none => exact Job.pure_in_step _ _ (only_matched _)
      | some value =>
          apply Job.bind_in_step _ _ _ _ (write_all_in_step tallies operation .store none key value first second stack)
          rintro answers _ rfl
          cases firstError? answers with
          | none => exact Job.pure_in_step _ _ (only_matched _)
          | some error => exact Job.pure_in_step _ _ (only_matched _)

theorem suspending_alike (operation : String) (form : ResultForm V R) (key : K) (first : List (Tier W K V))
    (second : List (Tier U K V)) (handle current : Bool) (origin : Job W (Except (Failure E) R))
    (other : Job U (Except (Failure E) R)) (context : Context W) (beside : Context U) (stack : Twins rel alike first second)
    (asks : ∀ world beside, rel world beside → Alike rel Eq (origin.run world) (other.run beside))
    (matched : Context.Matched rel tally context beside) :
    Alike (Context.Matched rel tally) (OutcomeMatched rel tally)
      ((suspending operation form key first handle current origin).run context)
      ((suspending operation form key second handle current other).run beside) := by
  have empty : first.isEmpty = second.isEmpty := by
    cases stack with
    | nil => rfl
    | cons twin stack => rfl
  have searched := Job.run_in_step _ _ context beside
    (search_async_in_step tallies operation key [] [] first second .nil stack) matched
  rw [suspending, suspending, empty]
  split
  case isTrue => exact ⟨only_matched _, matched⟩
  case isFalse =>
    rw [Job.run_bind, Job.run_bind]
    rcases here : (searchAsync operation key [] first).run context with ⟨outcome, after⟩
    rcases there : (searchAsync operation key [] second).run beside with ⟨given, besideAfter⟩
    rw [here, there] at searched
    obtain ⟨found, still⟩ := searched
    rcases found_alike_ends found with ⟨error, rfl, rfl⟩ | ⟨nearer, passed, value, rfl, rfl, behind⟩ | ⟨rfl, rfl⟩
    · exact ⟨only_matched _, still⟩
    · exact answer_hit_matched tallies handle current form operation key value _ _ after besideAfter behind still
    · have counted := Context.record_origin_matched tallies operation after besideAfter still
      obtain ⟨outcome, later, besideLater, here, there, reached⟩ := alike_ends (asks after.world besideAfter.world still.1)
      simp only [Job.run_bind, Job.run_modify, Job.run_on_world, Context.recordOrigin, here, there]
      exact Job.run_in_step _ _ (⟨later, after.metrics.recordOrigin operation⟩ : Context W)
        (⟨besideLater, besideAfter.metrics.recordOrigin operation⟩ : Context U)
        (hand_on_in_step tallies operation form key first second outcome stack) ⟨reached, counted.2⟩

theorem suspending_in_step (operation : String) (form : ResultForm V R) (key : K) (first : List (Tier W K V))
    (second : List (Tier U K V)) (handle current : Bool) (origin : Job W (Except (Failure E) R))
    (other : Job U (Except (Failure E) R)) (stack : Twins rel alike first second) (asks : Job.InStep rel Eq origin other) :
    Job.InStep (Context.Matched rel tally) (OutcomeMatched rel tally)
      (suspending operation form key first handle current origin)
      (suspending operation form key second handle current other) := by
  cases stack with
  | nil => exact Job.pure_in_step _ _ (only_matched _)
  | @cons tier twin first second inStep stack =>
      have searched := search_async_in_step tallies operation key [] [] _ _ .nil (.cons inStep stack)
      rw [suspending, suspending]
      simp only [List.isEmpty_cons, Bool.false_eq_true, if_false]
      apply Job.bind_in_step _ _ _ _ searched
      intro outcome given found
      rcases found_alike_ends found with ⟨error, rfl, rfl⟩ | ⟨nearer, passed, value, rfl, rfl, behind⟩ | ⟨rfl, rfl⟩
      · exact Job.pure_in_step _ _ (only_matched _)
      · apply Job.act_in_step
        intro context beside matched
        exact answer_hit_matched tallies handle current form operation key value _ _ context beside behind matched
      · refine counted_in_step ?_ (Context.record_origin_matched tallies operation)
        apply Job.bind_in_step _ _ _ _ (Job.on_world_in_step _ _ asks)
        rintro outcome _ rfl
        exact hand_on_in_step tallies operation form key _ _ outcome (.cons inStep stack)

end Counted

theorem twins_any {first : List (Tier W K V)} {second : List (Tier U K V)} (stack : Stacks rel first second) :
    Twins rel (fun _ _ => True) first second := stack.imp fun _ _ inStep => ⟨inStep, trivial⟩

end Resolve

namespace Operation

theorem resolve_alike (first : Operation (Tier W K V)) (second : Operation (Tier U K V)) (form : ResultForm V R)
    (key : K)
    (origin : W → Except (Failure E) R × W) (other : U → Except (Failure E) R × U) (elapsed : Float)
    (context : Context W) (beside : Context U)
    (named : first.name = second.name) (stack : Resolve.Stacks rel first.tiers second.tiers)
    (asks : ∀ world beside, rel world beside → Alike rel Eq (origin world) (other beside))
    (related : Context.Related rel context beside) :
    Alike (Context.Related rel) Eq (first.resolve form key origin elapsed context)
      (second.resolve form key other elapsed beside) := by
  rw [← Context.matched_any rel] at related
  have resolved := Resolve.blocking_alike Metrics.any_tallies first.name form key first.tiers second.tiers origin other
    context beside (Resolve.twins_any stack) asks related
  obtain ⟨answer, after, besideAfter, here, there, still⟩ := alike_ends resolved
  simp only [resolve, ← named, here, there]
  exact ⟨rfl, still.1⟩

theorem resolve_async_alike (first : Operation (Tier W K V)) (second : Operation (Tier U K V)) (form : ResultForm V R)
    (key : K) (current : Bool)
    (origin : Job W (Except (Failure E) R)) (other : Job U (Except (Failure E) R)) (elapsed : Float)
    (context : Context W) (beside : Context U)
    (named : first.name = second.name) (stack : Resolve.Stacks rel first.tiers second.tiers)
    (runtime : first.backfillRuntime = second.backfillRuntime)
    (asks : ∀ world beside, rel world beside → Alike rel Eq (origin.run world) (other.run beside))
    (related : Context.Related rel context beside) :
    Alike (Context.Related rel) (Resolve.OutcomeAlike rel)
      ((first.resolveAsync form key current origin elapsed).run context)
      ((second.resolveAsync form key current other elapsed).run beside) := by
  rw [← Context.matched_any rel] at related
  have resolved := Resolve.suspending_alike Metrics.any_tallies first.name form key first.tiers second.tiers
    first.backfillRuntime current origin other context beside (Resolve.twins_any stack) asks related
  rw [Context.matched_any, Resolve.outcome_matched_any] at resolved
  simp only [resolveAsync, Job.run_bind, Job.run_modify, Job.run_pure, ← named, ← runtime]
  exact resolved

theorem resolve_async_in_step (first : Operation (Tier W K V)) (second : Operation (Tier U K V)) (form : ResultForm V R)
    (key : K) (current : Bool) (origin : Job W (Except (Failure E) R)) (other : Job U (Except (Failure E) R))
    (elapsed : Float) (named : first.name = second.name) (stack : Resolve.Stacks rel first.tiers second.tiers)
    (runtime : first.backfillRuntime = second.backfillRuntime) (asks : Job.InStep rel Eq origin other) :
    Job.InStep (Context.Related rel) (Resolve.OutcomeAlike rel) (first.resolveAsync form key current origin elapsed)
      (second.resolveAsync form key current other elapsed) := by
  have together := Resolve.suspending_in_step Metrics.any_tallies first.name form key first.tiers second.tiers
    first.backfillRuntime current origin other (Resolve.twins_any stack) asks
  rw [Context.matched_any, Resolve.outcome_matched_any] at together
  rw [resolveAsync, resolveAsync, ← named, ← runtime]
  apply Job.bind_in_step _ _ _ _ together
  intro outcome given ended
  exact Resolve.counted_in_step (Job.pure_in_step _ _ ended) fun _ _ related => related

end Operation

end CacheTiers
