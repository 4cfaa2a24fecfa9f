import CacheTiers.Proofs.Resolve.View
import Mathlib.Data.List.Forall2

namespace CacheTiers

variable {ι W K V R E : Type}

namespace View

variable (view : View ι W K V)

def Coherent (places : List ι) (world : W) : Prop :=
  ∀ key, ∀ first ∈ places, ∀ second ∈ places, ∀ a b,
    view.held first world key = some a → view.held second world key = some b → a = b

def Known (places : List ι) (key : K) (world : W) : Prop :=
  ∃ place ∈ places, ∃ value, view.held place world key = some value

-- How far a call for a key has come: nothing has been written, or one value at some places, which every
-- tier of the stack that held the key before held already.
structure Progress (places : List ι) (key : K) (before now : W) : Prop where
  valid : view.valid now
  written : (∀ place, view.held place now = view.held place before) ∨
    ∃ value, (∀ place ∈ places, ∀ old, view.held place before key = some old → old = value) ∧
      ∀ place other, view.held place now other = view.held place before other ∨
        other = key ∧ view.held place now other = some value
  unasked : view.Known places key before → view.asked now = view.asked before

def Answers (places : List ι) (key : K) (form : ResultForm V R) (before : W) (result : Except (Failure E) R) :
    Prop :=
  ∀ place ∈ places, ∀ value, view.held place before key = some value →
    ∀ given, result = .ok given → given = form.ofValue value

theorem progress_held (places : List ι) (key : K) (before now : W) (progress : view.Progress places key before now)
    (place : ι) (member : place ∈ places) (other : K) (value : V)
    (held : view.held place before other = some value) : view.held place now other = some value := by
  rcases progress.written with same | ⟨written, fits, changed⟩
  · rw [same place]
    exact held
  · rcases changed place other with kept | ⟨rfl, stored⟩
    · rw [kept]
      exact held
    · rw [stored, fits place member value held]

theorem progress_coherent (places : List ι) (key : K) (before now : W) (coherent : view.Coherent places before)
    (progress : view.Progress places key before now) : view.Coherent places now := by
  intro other first inFirst second inSecond a b heldA heldB
  rcases progress.written with same | ⟨written, fits, changed⟩
  · rw [same first] at heldA
    rw [same second] at heldB
    exact coherent other first inFirst second inSecond a b heldA heldB
  · -- A place that has changed reads the value written; one that has not agrees with it by `fits`.
    have reads (place : ι) (member : place ∈ places) (value : V) (held : view.held place now other = some value) :
        view.held place before other = some value ∨ other = key ∧ value = written := by
      rcases changed place other with kept | ⟨same, stored⟩
      · exact .inl (kept.symm.trans held)
      · exact .inr ⟨same, Option.some.inj (held.symm.trans stored)⟩
    rcases reads first inFirst a heldA with oldA | ⟨same, newA⟩
    · rcases reads second inSecond b heldB with oldB | ⟨same, newB⟩
      · exact coherent other first inFirst second inSecond a b oldA oldB
      · subst same
        rw [newB]
        exact fits first inFirst a oldA
    · rcases reads second inSecond b heldB with oldB | ⟨_, newB⟩
      · subst same
        rw [newA]
        exact (fits second inSecond b oldB).symm
      · rw [newA, newB]

theorem progress_of_same (places : List ι) (key : K) (before now : W) (valid : view.valid before)
    (same : view.Same before now) : view.Progress places key before now :=
  ⟨(same.1 valid).1, .inl (same.1 valid).2, fun _ => same.2⟩

-- Where a tier holds the value that is written, nothing is asked; where none holds any, something may be.
theorem progress_of_adds (places : List ι) (key : K) (value : V) (before middle now : W)
    (fits : ∀ place ∈ places, ∀ old, view.held place before key = some old → old = value)
    (rests : view.valid middle ∧ ∀ place, view.held place middle = view.held place before)
    (unasked : view.Known places key before → view.asked middle = view.asked before)
    (adds : view.Adds key value middle now) : view.Progress places key before now := by
  obtain ⟨valid, changed⟩ := adds.1 rests.1
  refine ⟨valid, .inr ⟨value, fits, ?_⟩, fun known => adds.2.trans (unasked known)⟩
  intro place other
  rw [← rests.2 place]
  exact changed place other

theorem not_known (places : List ι) (key : K) (before : W)
    (absent : ∀ place ∈ places, view.held place before key = none) : ¬ view.Known places key before := by
  rintro ⟨place, member, value, held⟩
  simp [absent place member] at held

theorem progress_unknown (places : List ι) (key : K) (before now : W)
    (absent : ∀ place ∈ places, view.held place before key = none)
    (rests : view.valid now ∧ ∀ place, view.held place now = view.held place before) :
    view.Progress places key before now := by
  exact ⟨rests.1, .inl rests.2, fun known => absurd known (view.not_known places key before absent)⟩

theorem answers_unknown (places : List ι) (key : K) (form : ResultForm V R) (before : W)
    (result : Except (Failure E) R) (absent : ∀ place ∈ places, view.held place before key = none) :
    view.Answers places key form before result := by
  intro place member value held
  simp [absent place member] at held

theorem answers_failure (places : List ι) (key : K) (form : ResultForm V R) (before : W) (failure : Failure E) :
    view.Answers places key form before (.error failure) := by
  intro _ _ _ _ given impossible
  cases impossible

theorem answers_held (places : List ι) (key : K) (form : ResultForm V R) (before : W) (place : ι) (value : V)
    (coherent : view.Coherent places before) (member : place ∈ places)
    (held : view.held place before key = some value) :
    view.Answers (E := E) places key form before (.ok (form.ofValue value)) := by
  intro other inPlaces old heldOld given same
  cases same
  rw [coherent key place member other inPlaces value old held heldOld]

theorem fits_held (places : List ι) (key : K) (before : W) (place : ι) (value : V)
    (coherent : view.Coherent places before) (member : place ∈ places)
    (held : view.held place before key = some value) :
    ∀ other ∈ places, ∀ old, view.held other before key = some old → old = value :=
  fun other inPlaces old heldOld => coherent key other inPlaces place member old value heldOld held

theorem fits_unknown (places : List ι) (key : K) (before : W) (value : V)
    (absent : ∀ place ∈ places, view.held place before key = none) :
    ∀ place ∈ places, ∀ old, view.held place before key = some old → old = value := by
  intro place member old held
  simp [absent place member] at held

def Searched (places : List ι) (tiers : List (Tier W K V)) (key : K) (before : W) :
    Except CacheError (Resolve.Found W K V) → Prop
  | .error _ => True
  | .ok (.hit passed value) =>
    (∃ place ∈ places, view.held place before key = some value) ∧ ∀ tier ∈ passed, tier ∈ tiers
  | .ok .miss => ∀ place ∈ places, view.held place before key = none

theorem searched_cons (place : ι) (places : List ι) (nearer tiers : List (Tier W K V)) (tier : Tier W K V)
    (key : K) (before after : W) (found : Except CacheError (Resolve.Found W K V))
    (kept : ∀ place, view.held place after = view.held place before) (absent : view.held place before key = none)
    (searched : view.Searched places (nearer ++ [tier] ++ tiers) key after found) :
    view.Searched (place :: places) (nearer ++ tier :: tiers) key before found := by
  cases found with
  | error _ => trivial
  | ok held =>
      cases held with
      | hit passed value =>
          obtain ⟨⟨other, member, held⟩, among⟩ := searched
          rw [kept other] at held
          refine ⟨⟨other, List.mem_cons_of_mem place member, held⟩, ?_⟩
          simpa using among
      | miss =>
          intro other member
          rcases List.mem_cons.mp member with rfl | later
          · exact absent
          · rw [← kept other]
            exact searched other later

end View

namespace Resolve

variable (view : View ι W K V)

theorem search_searched (operation : String) (key : K) (places : List ι) (nearer tiers : List (Tier W K V))
    (context : Context W) (stack : List.Forall₂ view.Mapped places tiers) (valid : view.valid context.world) :
    view.Same context.world (search operation key nearer tiers context).2.world ∧
      view.Searched places (nearer ++ tiers) key context.world (search operation key nearer tiers context).1 := by
  induction stack generalizing nearer context with
  | nil => exact ⟨view.composes_same.refl _, by simp [search, View.Searched]⟩
  | @cons place tier places tiers mapped stack ih =>
      obtain ⟨same, reads⟩ := mapped.get key context.world valid
      rcases read : tier.get key context.world with ⟨outcome, after⟩
      rw [read] at same reads
      rw [search, Context.on_world_of_eq read]
      cases outcome with
      | error error => exact ⟨same, trivial⟩
      | ok found =>
          cases found with
          | some value =>
              refine ⟨same, ⟨place, by simp, (reads _ rfl).symm⟩, ?_⟩
              intro other member
              exact List.mem_append_left _ member
          | none =>
              obtain ⟨later, kept⟩ := same.1 valid
              obtain ⟨rest, searched⟩ :=
                ih (nearer ++ [tier]) (Context.record operation tier.name .miss ⟨after, context.metrics⟩) later
              exact ⟨view.composes_same.trans _ _ _ same rest, view.searched_cons place places nearer tiers tier key
                context.world after _ kept (reads none rfl).symm searched⟩

theorem fill_adds (operation : String) (event : Event) (key : K) (value : V) (tiers : List (Tier W K V))
    (context : Context W) (mapped : ∀ tier ∈ tiers, ∃ place, view.Mapped place tier)
    (valid : view.valid context.world) :
    view.Adds key value context.world (fill operation event key value tiers context).2.world := by
  induction tiers generalizing context with
  | nil => exact (view.composes_adds key value).refl _
  | cons tier tiers ih =>
      obtain ⟨place, law⟩ := mapped tier (by simp)
      have stored := law.put key value context.world valid
      rcases written : tier.put key value context.world with ⟨outcome, after⟩
      rw [written] at stored
      rw [fill, Context.on_world_of_eq written]
      cases outcome with
      | error error => exact stored
      | ok done =>
          have rest := ih (Context.record operation tier.name event ⟨after, context.metrics⟩)
            (fun other member => mapped other (by simp [member])) (stored.1 valid).1
          exact (view.composes_adds key value).trans _ _ _ stored rest

theorem mapped_of_stack (places : List ι) (tiers : List (Tier W K V)) (stack : List.Forall₂ view.Mapped places tiers) :
    ∀ tier ∈ tiers, ∃ place, view.Mapped place tier := by
  induction stack with
  | nil => simp
  | @cons place tier places tiers mapped stack ih =>
      intro other member
      rcases List.mem_cons.mp member with rfl | later
      · exact ⟨place, mapped⟩
      · exact ih other later

theorem after_fill_progress (form : ResultForm V R) (places : List ι) (key : K) (value : V) (before : W) (middle : Context W)
    (filled : Except CacheError Unit × Context W)
    (fits : ∀ place ∈ places, ∀ old, view.held place before key = some old → old = value)
    (rests : view.valid middle.world ∧ ∀ place, view.held place middle.world = view.held place before)
    (unasked : view.Known places key before → view.asked middle.world = view.asked before)
    (adds : view.Adds key value middle.world filled.2.world) :
    view.Progress places key before (afterFill (E := E) form value filled).2.world ∧
      view.Answers places key form before (afterFill (E := E) form value filled).1 := by
  have progress := view.progress_of_adds places key value before middle.world filled.2.world fits rests unasked adds
  obtain ⟨outcome, context⟩ := filled
  cases outcome with
  | error error => exact ⟨progress, view.answers_failure places key form before _⟩
  | ok done =>
      refine ⟨progress, ?_⟩
      intro place member old held given same
      cases same
      rw [fits place member old held]

theorem through_tiers_progress (operation : String) (form : ResultForm V R) (key : K) (places : List ι)
    (tiers : List (Tier W K V)) (origin : W → Except (Failure E) R × W) (context : Context W)
    (stack : List.Forall₂ view.Mapped places tiers) (asks : view.Asks origin) (valid : view.valid context.world)
    (coherent : view.Coherent places context.world) :
    view.Progress places key context.world (throughTiers operation form key tiers origin context).2.world ∧
      view.Answers places key form context.world (throughTiers operation form key tiers origin context).1 := by
  obtain ⟨same, searched⟩ := search_searched view operation key places [] tiers context stack valid
  have mapped := mapped_of_stack view places tiers stack
  rw [throughTiers]
  rcases ended : search operation key [] tiers context with ⟨found, after⟩
  rw [ended] at same searched
  obtain ⟨later, kept⟩ := same.1 valid
  cases found with
  | error error =>
      exact ⟨view.progress_of_same places key _ _ valid same, view.answers_failure places key form _ _⟩
  | ok held =>
      cases held with
      | hit passed value =>
          obtain ⟨⟨place, member, held⟩, among⟩ := searched
          have fits := view.fits_held places key context.world place value coherent member held
          exact after_fill_progress view form places key value context.world after _ fits ⟨later, kept⟩ (fun _ => same.2)
            (fill_adds view operation .backfill key value passed after
              (fun tier inPassed => mapped tier (among tier inPassed)) later)
      | miss =>
          refine ⟨?_, view.answers_unknown places key form _ _ searched⟩
          have asked := asks after.world
          rcases given : origin after.world with ⟨outcome, world⟩
          rw [given] at asked
          have step : (after.recordOrigin operation).onWorld origin =
              (outcome, ⟨world, (after.recordOrigin operation).metrics⟩) := Context.on_world_of_eq given
          simp only [step]
          obtain ⟨last, rests⟩ := asked.1 later
          have unchanged : view.valid world ∧ ∀ place, view.held place world = view.held place context.world :=
            ⟨last, fun place => (rests place).trans (kept place)⟩
          cases outcome with
          | error failure => exact view.progress_unknown places key _ _ searched unchanged
          | ok result =>
              dsimp only
              cases form.toValue? result with
              | none => exact view.progress_unknown places key _ _ searched unchanged
              | some value =>
                  have fits := view.fits_unknown places key context.world value searched
                  exact (after_fill_progress (E := E) view form places key value context.world ⟨world, _⟩ _ fits unchanged
                    (fun known => absurd known (view.not_known places key context.world searched))
                    (fill_adds view operation .store key value tiers ⟨world, _⟩ mapped last)).1

theorem through_one_progress (operation : String) (form : ResultForm V R) (key : K) (place : ι)
    (tier : Tier W K V) (origin : W → Except (Failure E) R × W) (context : Context W)
    (mapped : view.Mapped place tier) (asks : view.Asks origin) (valid : view.valid context.world)
    (coherent : view.Coherent [place] context.world) :
    view.Progress [place] key context.world (throughOne operation form key tier origin context).2.world ∧
      view.Answers [place] key form context.world (throughOne operation form key tier origin context).1 := by
  have consults := mapped.compute key context.world valid
  cases consulted : tier.computeIfAbsent key context.world with
  | answer outcome world =>
      rw [throughOne, consulted]
      rw [consulted] at consults
      obtain ⟨same, reads⟩ := consults
      have progress := view.progress_of_same [place] key _ _ valid same
      cases outcome with
      | error error => exact ⟨progress, view.answers_failure [place] key form _ _⟩
      | ok found =>
          have held := reads found rfl
          cases found with
          | none => exact ⟨progress, view.answers_unknown [place] key form _ _ (by simpa using held.symm)⟩
          | some value =>
              exact ⟨progress, view.answers_held [place] key form _ place value coherent (by simp) held.symm⟩
  | ask resume world =>
      rw [consulted] at consults
      obtain ⟨same, absent, resumes⟩ := consults
      have unknown : ∀ other ∈ [place], view.held other context.world key = none := by simpa using absent
      refine ⟨?_, view.answers_unknown [place] key form _ _ unknown⟩
      rw [through_one_asked operation form key tier origin context resume world consulted, after_resume_world]
      obtain ⟨later, kept⟩ := same.1 valid
      obtain ⟨last, rests⟩ := (asks world).1 later
      have resumed := resumes (.ok (offered form (origin world).1)) (origin world).2 last
      change view.Progress [place] key context.world
        (resume (.ok (offered form (origin world).1)) (origin world).2).2
      cases told : offered form (origin world).1 with
      | none =>
          -- Told of absence, the tier leaves every place as it is, whatever it then answers.
          rw [told] at resumed
          obtain ⟨reached, unmoved⟩ := resumed.1.1 last
          exact view.progress_unknown [place] key _ _ unknown
            ⟨reached, fun other => (unmoved other).trans ((rests other).trans (kept other))⟩
      | some value =>
          rw [told] at resumed
          exact view.progress_of_adds [place] key value _ _ _ (view.fits_unknown [place] key context.world value unknown)
            ⟨last, fun other => (rests other).trans (kept other)⟩
            (fun known => absurd known (view.not_known [place] key context.world unknown)) resumed.1

theorem blocking_progress (operation : String) (form : ResultForm V R) (key : K) (places : List ι)
    (tiers : List (Tier W K V)) (origin : W → Except (Failure E) R × W) (context : Context W)
    (stack : List.Forall₂ view.Mapped places tiers) (asks : view.Asks origin) (valid : view.valid context.world)
    (coherent : view.Coherent places context.world) :
    view.Progress places key context.world (blocking operation form key tiers origin context).2.world ∧
      view.Answers places key form context.world (blocking operation form key tiers origin context).1 := by
  cases stack with
  | nil =>
      exact ⟨view.progress_of_same [] key _ _ valid (view.composes_same.refl _), view.answers_failure [] key form _ _⟩
  | @cons place tier places tiers mapped stack =>
      cases stack with
      | nil => exact through_one_progress view operation form key place tier origin context mapped asks valid coherent
      | cons next stack =>
          exact through_tiers_progress view operation form key _ _ origin context (.cons mapped (.cons next stack)) asks valid
            coherent

theorem get_async_reads (place : ι) (tier : Tier W K V) (key : K) (context : Context W)
    (mapped : view.Mapped place tier) (valid : view.valid context.world) :
    Poll.Abides Eq (Reaches fun now => view.Same context.world now.world)
      (fun answer now => view.Reads place key context.world answer ∧ view.Same context.world now.world)
      context ((tier.getAsync key).onWorld context) := by
  have lifted := Job.on_world_abides (mapped.getAsync key context.world valid)
  refine Poll.abides_mono (Poll.abides_reaches lifted ?_ ?_ (view.composes_same.refl _)) ?_ (fun _ _ held => held)
    (fun _ _ held => held)
  · exact fun before after step same => view.composes_same.trans _ _ _ same step
  · intro before after equal same
    rw [← equal]
    exact same
  · rintro before after rfl
    rfl

theorem search_async_searched (operation : String) (key : K) (places : List ι) (nearer tiers : List (Tier W K V))
    (context : Context W) (stack : List.Forall₂ view.Mapped places tiers) (valid : view.valid context.world) :
    Poll.Abides Eq (Reaches fun now => view.Same context.world now.world)
      (fun found now =>
        view.Searched places (nearer ++ tiers) key context.world found ∧ view.Same context.world now.world)
      context (searchAsync operation key nearer tiers context) := by
  induction stack generalizing nearer context with
  | nil =>
      have same := view.composes_same.refl context.world
      exact ⟨same, by simp [View.Searched], same⟩
  | @cons place tier places tiers mapped stack ih =>
      apply Poll.abides_bind reaches_trans (get_async_reads view place tier key context mapped valid)
      rintro answer after ⟨reads, same⟩
      cases answer with
      | error error => exact ⟨same, trivial, same⟩
      | ok found =>
          cases found with
          | some value =>
              refine ⟨same, ⟨⟨place, by simp, (reads _ rfl).symm⟩, ?_⟩, same⟩
              intro other member
              exact List.mem_append_left _ member
          | none =>
              obtain ⟨later, kept⟩ := same.1 valid
              have rest := ih (nearer ++ [tier]) (after.record operation tier.name .miss) later
              have counted : Reaches (fun now => view.Same context.world now.world) after
                  (after.record operation tier.name .miss) := same
              refine Poll.abides_after_step reaches_trans counted (Poll.abides_mono rest (fun _ _ equal => equal) ?_ ?_)
              · exact fun _ now reached => view.composes_same.trans _ _ _ same reached
              · rintro found now ⟨searched, reached⟩
                exact ⟨view.searched_cons place places nearer tiers tier key context.world after.world found kept
                  (reads none rfl).symm searched, view.composes_same.trans _ _ _ same reached⟩

theorem write_all_adds (operation : String) (onSuccess : Event) (onFailure : Option Event) (key : K) (value : V)
    (tiers : List (Tier W K V)) (context : Context W) (mapped : ∀ tier ∈ tiers, ∃ place, view.Mapped place tier)
    (valid : view.valid context.world) :
    Poll.Abides Eq (Reaches fun now => view.Adds key value context.world now.world)
      (fun _ now => view.Adds key value context.world now.world) context
      (writeAll operation onSuccess onFailure key value tiers context) := by
  refine write_all_reaches view.composes_stays (view.composes_adds key value) (fun _ _ adds valid => (adds.1 valid).1) operation
    onSuccess onFailure key value tiers context ?_
  intro tier member now stays
  obtain ⟨place, law⟩ := mapped tier member
  exact law.putAsync key value now (stays valid)

-- What is known of the outcome of a suspending resolution when it ends. The work that it dispatched writes
-- the value that was hit to tiers of the stack, and up to then nothing has been written.
structure Ended (places : List ι) (key : K) (form : ResultForm V R) (before : W) (outcome : Outcome W K V R E)
    (now : W) : Prop where
  progress : view.Progress places key before now
  answers : view.Answers places key form before outcome.result
  dispatched : ∀ backfill, outcome.dispatched = some backfill →
    backfill.key = key ∧ (∀ tier ∈ backfill.targets, ∃ place, view.Mapped place tier) ∧
      (∃ place ∈ places, view.held place before key = some backfill.value) ∧ view.Same before now

theorem ended_only (places : List ι) (key : K) (form : ResultForm V R) (before : W)
    (result : Except (Failure E) R) (now : W) (progress : view.Progress places key before now)
    (answers : view.Answers places key form before result) :
    Ended (K := K) view places key form before (.only result) now :=
  ⟨progress, answers, fun _ impossible => by cases impossible⟩

theorem answer_hit_ended (handle current : Bool) (form : ResultForm V R) (operation : String) (passed : List (Tier W K V))
    (key : K) (value : V) (places : List ι) (before : W) (context : Context W) (valid : view.valid before)
    (coherent : view.Coherent places before) (same : view.Same before context.world)
    (known : ∃ place ∈ places, view.held place before key = some value)
    (mapped : ∀ tier ∈ passed, ∃ place, view.Mapped place tier) :
    Ended view places key form before (answerHit (E := E) handle current form ⟨operation, passed, key, value⟩ context).1
      (answerHit (E := E) handle current form ⟨operation, passed, key, value⟩ context).2.world := by
  obtain ⟨place, member, held⟩ := known
  have answers := view.answers_held (E := E) places key form before place value coherent member held
  have progress := view.progress_of_same places key before context.world valid same
  rw [answerHit]
  split
  · exact ended_only view places key form before _ _ progress answers
  · rcases sent : dispatch handle current ⟨operation, passed, key, value⟩ context with ⟨dispatched, after⟩
    have unmoved : after.world = context.world := by
      simpa only [sent] using dispatch_world handle current ⟨operation, passed, key, value⟩ context
    refine ⟨?_, answers, ?_⟩
    · rw [unmoved]
      exact progress
    · intro backfill given
      have equal := dispatch_given handle current ⟨operation, passed, key, value⟩ backfill context (by rw [sent]; exact given)
      subst equal
      refine ⟨rfl, mapped, ⟨place, member, held⟩, ?_⟩
      rw [unmoved]
      exact same

theorem origin_late_rests (origin : Job W (Except (Failure E) R)) (context : Context W) (asks : view.AsksLate origin) :
    Poll.Abides Eq (InvImage view.Rests Context.world) (fun _ _ => True) context (origin.onWorld context) := by
  have alone := view.asks_late_rests origin context.world asks
  refine Poll.abides_mono (Job.on_world_abides alone) ?_ (fun _ _ step => step) (fun _ _ _ => trivial)
  rintro before after rfl
  rfl

theorem hand_on_ended (operation : String) (form : ResultForm V R) (key : K) (places : List ι)
    (tiers : List (Tier W K V)) (given : Except (Failure E) R) (context now : Context W)
    (mapped : ∀ tier ∈ tiers, ∃ place, view.Mapped place tier)
    (absent : ∀ place ∈ places, view.held place context.world key = none)
    (rests : view.valid now.world ∧ ∀ place, view.held place now.world = view.held place context.world) :
    Poll.Abides Eq (Reaches fun later => view.Progress places key context.world later.world)
      (fun outcome later => Ended view places key form context.world outcome later.world) now
      (handOn operation form key tiers given now) := by
  have ended (result : Except (Failure E) R) (later : Context W)
      (progress : view.Progress places key context.world later.world) :=
    ended_only view places key form context.world result later.world progress
      (view.answers_unknown places key form _ result absent)
  have progress := view.progress_unknown places key _ _ absent rests
  cases given with
  | error failure => exact ⟨progress, ended _ now progress⟩
  | ok result =>
      rw [handOn]
      cases form.toValue? result with
      | none => exact ⟨progress, ended _ now progress⟩
      | some value =>
          have written := write_all_adds view operation .store none key value tiers now mapped rests.1
          have grown (final : W) (adds : view.Adds key value now.world final) :
              view.Progress places key context.world final :=
            view.progress_of_adds places key value _ now.world final
              (view.fits_unknown places key context.world value absent) rests
              (fun known => absurd known (view.not_known places key context.world absent)) adds
          refine Poll.abides_bind reaches_trans (Poll.abides_mono written (fun _ _ equal => equal)
            (fun _ final adds => grown final.world adds) (fun _ _ held => held)) ?_
          intro outcomes final adds
          cases firstError? outcomes with
          | none => exact ⟨grown final.world adds, ended _ final (grown final.world adds)⟩
          | some error => exact ⟨grown final.world adds, ended _ final (grown final.world adds)⟩

theorem suspending_ended (operation : String) (form : ResultForm V R) (key : K) (places : List ι)
    (tiers : List (Tier W K V)) (handle current : Bool) (origin : Job W (Except (Failure E) R)) (context : Context W)
    (stack : List.Forall₂ view.Mapped places tiers) (asks : view.AsksLate origin) (valid : view.valid context.world)
    (coherent : view.Coherent places context.world) :
    Poll.Abides Eq (Reaches fun now => view.Progress places key context.world now.world)
      (fun outcome now => Ended view places key form context.world outcome now.world) context
      (suspending operation form key tiers handle current origin context) := by
  have mapped := mapped_of_stack view places tiers stack
  have idle (now : W) (same : view.Same context.world now) := view.progress_of_same places key context.world now valid same
  rw [suspending]
  split
  · have progress := idle context.world (view.composes_same.refl _)
    exact ⟨progress, ended_only view places key form _ _ _ progress (view.answers_failure places key form _ _)⟩
  · have searched := search_async_searched view operation key places [] tiers context stack valid
    refine Poll.abides_bind reaches_trans
      (Poll.abides_mono searched (fun _ _ equal => equal) (fun _ now same => idle now.world same) (fun _ _ held => held)) ?_
    rintro found after ⟨searched, same⟩
    have progress := idle after.world same
    obtain ⟨later, kept⟩ := same.1 valid
    cases found with
    | error error =>
        exact ⟨progress, ended_only view places key form _ _ _ progress (view.answers_failure places key form _ _)⟩
    | ok held =>
        cases held with
        | hit passed value =>
            have ended := answer_hit_ended (E := E) view handle current form operation passed key value places context.world
              after valid coherent same searched.1 (fun tier inPassed => mapped tier (searched.2 tier inPassed))
            exact ⟨ended.progress, ended⟩
        | miss =>
            let unmoved (now : Context W) : Prop :=
              view.valid now.world ∧ ∀ place, view.held place now.world = view.held place context.world
            have reached : Poll.Abides Eq (Reaches unmoved) (fun _ now => True ∧ unmoved now) (after.recordOrigin operation)
                (origin.onWorld (after.recordOrigin operation)) := by
              refine Poll.abides_reaches (origin_late_rests view origin _ asks) ?_ (fun _ _ equal held => equal ▸ held)
                ⟨later, kept⟩
              intro before now rests held
              obtain ⟨still, same⟩ := rests held.1
              exact ⟨still, fun place => (same place).trans (held.2 place)⟩
            have counted : Reaches (fun now => view.Progress places key context.world now.world) after
                (after.recordOrigin operation) := progress
            apply Poll.abides_after_step reaches_trans counted
            change Poll.Abides _ _ _ _ (Poll.bind (origin.onWorld (after.recordOrigin operation)) _)
            refine Poll.abides_bind reaches_trans (Poll.abides_mono reached (fun _ _ equal => equal)
              (fun _ now held => view.progress_unknown places key _ _ searched held) (fun _ _ held => held)) ?_
            rintro given now ⟨_, rests⟩
            exact hand_on_ended view operation form key places tiers given context now mapped searched rests

theorem settle_dispatched_progress (form : ResultForm V R) (key : K) (places : List ι) (before : W)
    (outcome : Outcome W K V R E) (context : Context W) (coherent : view.Coherent places before)
    (valid : view.valid before) (ended : Ended view places key form before outcome context.world) :
    view.Progress places key before (settleDispatched outcome.dispatched context).world := by
  cases sent : outcome.dispatched with
  | none => exact ended.progress
  | some backfill =>
      obtain ⟨rfl, mapped, ⟨place, member, held⟩, same⟩ := ended.dispatched backfill sent
      obtain ⟨later, kept⟩ := same.1 valid
      have written := write_all_adds view backfill.operation .backfill (some .backfillError) backfill.key backfill.value
        backfill.targets context mapped later
      have adds := (Job.run_abides (fun _ => rfl) reaches_trans written).1
      rw [settle_dispatched_some]
      exact view.progress_of_adds places backfill.key backfill.value before context.world _
        (view.fits_held places backfill.key before place backfill.value coherent member held) ⟨later, kept⟩
        (fun _ => same.2) adds

end Resolve

end CacheTiers
