import CacheTiers.Proofs.Resolve.Outcome
import CacheTiers.Proofs.World.Cells

namespace CacheTiers

namespace Cells

variable {ι W K V σ R E : Type} (cells : Cells ι W K V σ)

-- The lowest place that fails to take the value is one that fails with this error.
def FailsFirst (key : K) (value : V) (places : List ι) (contents : ι → σ) (error : CacheError) : Prop :=
  ∃ nearer place further, places = nearer ++ place :: further ∧
    (∀ other ∈ nearer, (cells.put other key value (contents other)).1 = .ok ()) ∧
    (cells.put place key value (contents place)).1 = .error error

def writes? (form : ResultForm V R) (places : List ι) (given : Except (Failure E) R) : Course ι V → Option (V × List ι)
  | .failed _ => none
  | .hit nearer value => some (value, nearer)
  | .missed =>
    match given with
    | .error _ => none
    | .ok result => (form.toValue? result).map fun value => (value, places)

theorem fault_some (key : K) (value : V) (places : List ι) (contents : ι → σ) (error : CacheError) :
    cells.fault? key value places contents = some error ↔ cells.FailsFirst key value places contents error := by
  induction places with
  | nil => simp [fault?, answers, Resolve.firstError?, FailsFirst]
  | cons place places ih =>
      simp only [fault?, answers, List.map_cons]
      cases answered : (cells.put place key value (contents place)).1 with
      | error first =>
          rw [Resolve.firstError?]
          constructor
          · intro same
            cases same
            exact ⟨[], place, places, rfl, List.forall_mem_nil _, answered⟩
          · rintro ⟨nearer, other, further, split, succeed, fails⟩
            cases nearer with
            | nil =>
                cases split
                rw [fails] at answered
                cases answered
                rfl
            | cons head nearer =>
                cases split
                have taken := succeed place (by simp)
                rw [answered] at taken
                cases taken
      | ok done =>
          rw [Resolve.firstError?]
          refine ih.trans ⟨?_, ?_⟩
          · rintro ⟨nearer, other, further, rfl, succeed, fails⟩
            exact ⟨place :: nearer, other, further, rfl, List.forall_mem_cons.mpr ⟨answered, succeed⟩, fails⟩
          · rintro ⟨nearer, other, further, split, succeed, fails⟩
            cases nearer with
            | nil =>
                cases split
                rw [answered] at fails
                cases fails
            | cons head nearer =>
                cases split
                exact ⟨nearer, other, further, rfl, (List.forall_mem_cons.mp succeed).2, fails⟩

theorem fault_none (key : K) (value : V) (places : List ι) (contents : ι → σ)
    (unfailing : ∀ error, ¬ cells.FailsFirst key value places contents error) :
    cells.fault? key value places contents = none := by
  cases found : cells.fault? key value places contents with
  | none => rfl
  | some error => exact absurd ((cells.fault_some key value places contents error).mp found) (unfailing error)

theorem unfailing_of_taken (key : K) (value : V) (places : List ι) (contents : ι → σ)
    (taken : ∀ place ∈ places, (cells.put place key value (contents place)).1 = .ok ()) (error : CacheError) :
    ¬ cells.FailsFirst key value places contents error := by
  rintro ⟨nearer, place, further, rfl, _, fails⟩
  rw [taken place (by simp)] at fails
  cases fails

variable [DecidableEq ι]

-- Of the results and the cells that the blocking and the suspending way end with.
structure Agree (form : ResultForm V R) (key : K) (places : List ι) (given : Except (Failure E) R) (start : ι → σ)
    (blocking suspending : Except (Failure E) R × (ι → σ)) : Prop where
  differs : ∀ nearer value error, (cells.search key [] places start).1 = .hit nearer value →
    cells.FailsFirst key value nearer (cells.search key [] places start).2 error →
      blocking.1 = .error (.cache error) ∧ suspending.1 = .ok (form.ofValue value)
  same : (∀ nearer value, (cells.search key [] places start).1 = .hit nearer value →
      ∀ error, ¬ cells.FailsFirst key value nearer (cells.search key [] places start).2 error) →
    blocking.1 = suspending.1
  stored : ∀ result value error, (cells.search key [] places start).1 = .missed → given = .ok result →
    form.toValue? result = some value → cells.FailsFirst key value places (cells.search key [] places start).2 error →
      blocking.1 = .error (.cache error) ∧ suspending.1 = .error (.cache error)
  contents : (∀ value targets, writes? form places given (cells.search key [] places start).1 = some (value, targets) →
      ∀ place ∈ targets, (cells.put place key value ((cells.search key [] places start).2 place)).1 = .ok ()) →
    blocking.2 = suspending.2

theorem fill_failed (form : ResultForm V R) (key : K) (value : V) (places : List ι) (contents : ι → σ)
    (error : CacheError) (apart : places.Nodup) (fault : cells.fault? key value places contents = some error) :
    (finish (E := E) form value (cells.fill key value places contents)).1 = .error (.cache error) := by
  have answered := cells.fill_fault key value places contents apart
  rcases filled : cells.fill key value places contents with ⟨outcome, final⟩
  simp only [filled, issue, fault] at answered
  subst answered
  rfl

theorem issue_failed (form : ResultForm V R) (key : K) (value : V) (places : List ι) (contents : ι → σ)
    (error : CacheError) (fault : cells.fault? key value places contents = some error) :
    (finish (E := E) form value (cells.issue key value places contents)).1 = .error (.cache error) := by
  rw [issue, fault]
  rfl

theorem issue_detach (key : K) (value : V) (places : List ι) (contents : ι → σ)
    (taken : cells.fault? key value places contents = none) :
    cells.issue key value places contents = cells.detach key value places contents := by
  rw [issue, taken]
  rfl

theorem hit_agree (form : ResultForm V R) (key : K) (places nearer : List ι) (given : Except (Failure E) R) (value : V)
    (start contents : ι → σ) (told : cells.search key [] places start = (.hit nearer value, contents))
    (apart : nearer.Nodup) :
    cells.Agree form key places given start (finish form value (cells.fill key value nearer contents))
      (finish form value (cells.detach key value nearer contents)) := by
  have alike (taken : cells.fault? key value nearer contents = none) :
      cells.fill key value nearer contents = cells.detach key value nearer contents :=
    (cells.fill_issue key value nearer contents apart taken).trans (cells.issue_detach key value nearer contents taken)
  refine ⟨?_, ?_, ?_, ?_⟩
  · intro other found error hit fails
    simp only [told, Course.hit.injEq] at hit fails
    obtain ⟨rfl, rfl⟩ := hit
    have fault := (cells.fault_some key value nearer contents error).mpr fails
    exact ⟨cells.fill_failed form key value nearer contents error apart fault, rfl⟩
  · intro unfailing
    simp only [told] at unfailing
    rw [alike (cells.fault_none key value nearer contents (unfailing nearer value rfl))]
  · intro result value _ missed
    simp [told] at missed
  · intro taken
    simp only [told, writes?] at taken
    have unfailing := cells.unfailing_of_taken key value nearer contents (taken value nearer rfl)
    rw [alike (cells.fault_none key value nearer contents unfailing)]

theorem stored_agree (form : ResultForm V R) (key : K) (places : List ι) (result : R) (value : V) (start contents : ι → σ)
    (told : cells.search key [] places start = (.missed, contents)) (present : form.toValue? result = some value)
    (apart : places.Nodup) :
    cells.Agree (E := E) form key places (.ok result) start (finish form value (cells.fill key value places contents))
      (finish form value (cells.issue key value places contents)) := by
  refine ⟨by simp [told], ?_, ?_, ?_⟩
  · intro _
    cases fault : cells.fault? key value places contents with
    | none => rw [cells.fill_issue key value places contents apart fault]
    | some error =>
        rw [cells.fill_failed form key value places contents error apart fault,
          cells.issue_failed form key value places contents error fault]
  · intro other found error _ same shown fails
    cases same
    rw [present] at shown
    cases shown
    simp only [told] at fails
    have fault := (cells.fault_some key value places contents error).mpr fails
    exact ⟨cells.fill_failed form key value places contents error apart fault,
      cells.issue_failed form key value places contents error fault⟩
  · intro taken
    simp only [told, writes?, present, Option.map_some] at taken
    have unfailing := cells.unfailing_of_taken key value places contents (taken value places rfl)
    rw [cells.fill_issue key value places contents apart (cells.fault_none key value places contents unfailing)]

theorem resolved_agree (operation : String) (form : ResultForm V R) (key : K) (places : List ι)
    (given : Except (Failure E) R) (start : ι → σ) (apart : places.Nodup) :
    cells.Agree form key places given start
      (cells.resolved cells.fill cells.fill operation form key places given start)
      (cells.resolved cells.detach cells.issue operation form key places given start) := by
  have prefixed := cells.search_nearer key [] places
  rcases told : cells.search key [] places start with ⟨course, contents⟩
  simp only [resolved, told]
  cases course with
  | failed error =>
      refine ⟨?_, fun _ => rfl, ?_, fun _ => rfl⟩
      · intro nearer value _ hit
        simp [told] at hit
      · intro result value _ missed
        simp [told] at missed
  | hit nearer value =>
      have among := prefixed nearer value start (by rw [told])
      exact cells.hit_agree form key places nearer given value start contents told (apart.sublist among.sublist)
  | missed =>
      cases given with
      | error failure => exact ⟨by simp [told], fun _ => rfl, by simp, fun _ => rfl⟩
      | ok result =>
          cases present : form.toValue? result with
          | none =>
              simp only [present]
              refine ⟨by simp [told], fun _ => rfl, ?_, fun _ => rfl⟩
              intro other value _ _ same shown
              cases same
              simp [present] at shown
          | some value =>
              simp only [present]
              exact cells.stored_agree form key places result value start contents told present apart

end Cells

namespace Operation

variable {ι W K V σ R E : Type} [DecidableEq ι]

-- The suspending resolution is run to its end, and then the work that it dispatched.
theorem resolutions_agree (cells : Cells ι W K V σ) (operation : Operation (Tier W K V)) (form : ResultForm V R)
    (key : K) (places : List ι) (given : Except (Failure E) R) (origin : W → Except (Failure E) R × W)
    (originLate : Job W (Except (Failure E) R)) (current : Bool) (elapsed elapsedLate : Float) (start : Context W)
    (stack : List.Forall₂ cells.Runs places operation.tiers) (apart : places.Nodup) (inhabited : places ≠ [])
    (gives : cells.Gives given origin) (givesLate : cells.GivesLate given originLate) (valid : cells.valid start.world)
    (runtime : (operation.backfillRuntime || current) = true) :
    let blocking := operation.resolve form key origin elapsed start
    let ended := (operation.resolveAsync form key current originLate elapsedLate).run start
    let settled := Resolve.settleDispatched ended.1.dispatched ended.2
    cells.asked blocking.2.world = cells.asked settled.world ∧
      cells.Agree form key places given (cells.contents start.world)
        (blocking.1, cells.contents blocking.2.world) (ended.1.result, cells.contents settled.world) := by
  intro blocking ended settled
  obtain ⟨answered, moves⟩ := resolve_comes cells operation form key places given origin elapsed start stack gives valid
    inhabited
  obtain ⟨answeredLate, movesLate⟩ := resolve_async_comes cells operation form key places given originLate current
    elapsedLate start stack apart givesLate valid inhabited ended.2 (cells.rests_refl ended.2.world)
  rw [runtime, cells.behind_runtime] at answeredLate movesLate
  refine ⟨moves.asked.trans movesLate.asked.symm, ?_⟩
  have first : (blocking.1, cells.contents blocking.2.world) = _ := Prod.ext answered moves.contents
  have second : (ended.1.result, cells.contents settled.world) = _ := Prod.ext answeredLate movesLate.contents
  rw [first, second]
  exact cells.resolved_agree operation.name form key places given (cells.contents start.world) apart

def unevenStart : Context World :=
  ⟨⟨[⟨.scripted ⟨"near", .empty, none, some ⟨.tier "near" "down", none⟩, 1, 2, .usual⟩, true⟩,
    ⟨.memory ((Memory.new "far" 10 none).insert (.int 1) (.int 5)), true⟩], .empty, []⟩, .empty⟩

def unevenOperation : Operation (Tier World Json Json) :=
  ⟨"load", [World.tier ⟨0, "near"⟩, World.tier ⟨1, "far"⟩], ["id"], .plain, true⟩

theorem uneven_resolutions_differ :
    (unevenOperation.resolve (E := String) ResultForm.plain (.int 1) (Session.originAction (.ok (.int 9))) 0 unevenStart).1 =
        .error (.cache (.tier "near" "down")) ∧
      ((unevenOperation.resolveAsync (E := String) ResultForm.plain (.int 1) false
        (Session.originJob (.ok (.int 9)) 1) 0).run unevenStart).1.result = .ok (.int 5) := by
  have stack : List.Forall₂ (World.cells [0, 1]).Runs [0, 1] unevenOperation.tiers :=
    .cons (World.tier_runs [0, 1] ⟨0, "near"⟩ (by decide)) (.cons (World.tier_runs [0, 1] ⟨1, "far"⟩ (by decide)) .nil)
  have valid : (World.cells [0, 1]).valid unevenStart.world := by
    intro index member
    rcases List.mem_pair.mp member with rfl | rfl
    · exact ⟨_, rfl, rfl⟩
    · exact ⟨_, rfl, trivial⟩
  obtain ⟨asked, agree⟩ := resolutions_agree (World.cells [0, 1]) unevenOperation ResultForm.plain (.int 1) [0, 1]
    (.ok (.int 9)) (Session.originAction (.ok (.int 9))) (Session.originJob (.ok (.int 9)) 1) false 0 0 unevenStart stack
    (by decide) (by decide) (World.origin_action_gives [0, 1] _) (World.origin_job_gives [0, 1] _ 1) valid rfl
  exact agree.differs [0] (.int 5) (.tier "near" "down") (by rfl) ⟨[], 0, [], rfl, List.forall_mem_nil _, rfl⟩

end Operation

end CacheTiers
