import CacheTiers.Operation
import CacheTiers.Proofs.Resolve.Cells

namespace CacheTiers

namespace Cells

variable {ι W K V σ R E A : Type} [DecidableEq ι] (cells : Cells ι W K V σ)

def search (key : K) (nearer : List ι) : List ι → (ι → σ) → Course ι V × (ι → σ)
  | [], contents => (.missed, contents)
  | place :: rest, contents =>
    match (cells.get place key (contents place)).1 with
    | .error error => (.failed error, cells.afterGet place key contents)
    | .ok (some value) => (.hit nearer value, cells.afterGet place key contents)
    | .ok none => search key (nearer ++ [place]) rest (cells.afterGet place key contents)

def fill (key : K) (value : V) : List ι → (ι → σ) → Except CacheError Unit × (ι → σ)
  | [], contents => (.ok (), contents)
  | place :: rest, contents =>
    match (cells.put place key value (contents place)).1 with
    | .error error => (.error error, cells.afterPut place key value contents)
    | .ok () => fill key value rest (cells.afterPut place key value contents)

-- The first write that fails, in the order of the places, when a value is written to all of them.
def fault? (key : K) (value : V) (places : List ι) (contents : ι → σ) : Option CacheError :=
  Resolve.firstError? (cells.answers key value places contents)

def issue (key : K) (value : V) (places : List ι) (contents : ι → σ) : Except CacheError Unit × (ι → σ) :=
  (match cells.fault? key value places contents with
    | some error => .error error
    | none => .ok (), cells.written key value places contents)

def detach (key : K) (value : V) (places : List ι) (contents : ι → σ) : Except CacheError Unit × (ι → σ) :=
  (.ok (), cells.written key value places contents)

def finish (form : ResultForm V R) (value : V) : Except CacheError Unit × (ι → σ) → Except (Failure E) R × (ι → σ)
  | (.ok (), contents) => (.ok (form.ofValue value), contents)
  | (.error error, contents) => (.error (.cache error), contents)

-- That a call answers, and leaves in the cells, what is told of it.
def Comes (asked : Nat) (before : W) (told : A × (ι → σ)) (ended : A × Context W) : Prop :=
  ended.1 = told.1 ∧ cells.Moves asked before told.2 ended.2.world

-- What a resolution comes to, by the way in which it writes to the nearer tiers and to all of them.
def resolved (backfill store : K → V → List ι → (ι → σ) → Except CacheError Unit × (ι → σ)) (operation : String)
    (form : ResultForm V R) (key : K) (places : List ι) (given : Except (Failure E) R) (contents : ι → σ) :
    Except (Failure E) R × (ι → σ) :=
  match cells.search key [] places contents with
  | (.failed error, contents) => (.error (.cache error), contents)
  | (.hit nearer value, contents) => finish form value (backfill key value nearer contents)
  | (.missed, contents) =>
    match given with
    | .error failure => (.error failure, contents)
    | .ok result =>
      match form.toValue? result with
      | some value => finish form value (store key value places contents)
      | none => (Resolve.absentResult form operation, contents)

def asks (key : K) (places : List ι) (contents : ι → σ) : Nat :=
  match (cells.search key [] places contents).1 with
  | .missed => 1
  | _ => 0

theorem answers_after (place : ι) (key : K) (value : V) (places : List ι) (contents : ι → σ) (state : σ)
    (other : place ∉ places) :
    cells.answers key value places (Function.update contents place state) = cells.answers key value places contents := by
  refine List.map_congr_left fun next member => ?_
  have different : next ≠ place := fun same => other (same ▸ member)
  rw [Function.update_of_ne different]

theorem fill_fault (key : K) (value : V) (places : List ι) (contents : ι → σ) (apart : places.Nodup) :
    (cells.fill key value places contents).1 = (cells.issue key value places contents).1 := by
  induction places generalizing contents with
  | nil => rfl
  | cons place places ih =>
      obtain ⟨other, apart⟩ := List.nodup_cons.mp apart
      simp only [fill, issue, fault?, answers, List.map_cons]
      cases (cells.put place key value (contents place)).1 with
      | error error => rfl
      | ok done =>
          have rest := ih (cells.afterPut place key value contents) apart
          simp only [issue, fault?, afterPut, cells.answers_after place key value places contents _ other] at rest
          exact rest

theorem written_cons (key : K) (value : V) (place : ι) (places : List ι) (contents : ι → σ) (other : place ∉ places) :
    cells.written key value places (cells.afterPut place key value contents) =
      cells.written key value (place :: places) contents := by
  funext next
  by_cases same : next = place
  · subst same
    simp [written, afterPut, other]
  · simp [written, afterPut, same]

theorem fill_written (key : K) (value : V) (places : List ι) (contents : ι → σ) (apart : places.Nodup)
    (succeeds : cells.fault? key value places contents = none) :
    (cells.fill key value places contents).2 = cells.written key value places contents := by
  induction places generalizing contents with
  | nil =>
      funext next
      simp [fill, written]
  | cons place places ih =>
      obtain ⟨other, apart⟩ := List.nodup_cons.mp apart
      simp only [fault?, answers, List.map_cons] at succeeds
      rw [fill]
      cases answered : (cells.put place key value (contents place)).1 with
      | error error => simp [answered, Resolve.firstError?] at succeeds
      | ok done =>
          rw [answered, Resolve.firstError?] at succeeds
          rw [← cells.written_cons key value place places contents other]
          apply ih _ apart
          rw [fault?, afterPut, cells.answers_after place key value places contents _ other]
          exact succeeds

theorem fill_issue (key : K) (value : V) (places : List ι) (contents : ι → σ) (apart : places.Nodup)
    (succeeds : cells.fault? key value places contents = none) :
    cells.fill key value places contents = cells.issue key value places contents :=
  Prod.ext (cells.fill_fault key value places contents apart) (cells.fill_written key value places contents apart succeeds)

theorem detach_nowhere (key : K) (value : V) (contents : ι → σ) :
    cells.detach key value [] contents = (.ok (), contents) := by
  have same : cells.written key value [] contents = contents := by
    funext place
    simp [written]
  rw [detach, same]

theorem search_nearer (key : K) (done places nearer : List ι) (value : V) (contents : ι → σ)
    (hit : (cells.search key done places contents).1 = .hit nearer value) : nearer <+: done ++ places := by
  induction places generalizing done contents with
  | nil => simp [search] at hit
  | cons place places ih =>
      rw [search] at hit
      cases answered : (cells.get place key (contents place)).1 with
      | error error => simp [answered] at hit
      | ok found =>
          cases found with
          | some found =>
              simp only [answered, Course.hit.injEq] at hit
              exact hit.1 ▸ List.prefix_append done _
          | none =>
              simp only [answered] at hit
              simpa using ih (done ++ [place]) (cells.afterGet place key contents) hit

def Follows (law : ι → Tier W K V → Prop) (course : Course ι V) : Except CacheError (Resolve.Found W K V) → Prop
  | .error error => course = .failed error
  | .ok (.hit passed value) => ∃ nearer, course = .hit nearer value ∧ List.Forall₂ law nearer passed
  | .ok .miss => course = .missed

end Cells

namespace Resolve

variable {ι W K V σ R E : Type} (cells : Cells ι W K V σ)

theorem after_fill_comes (form : ResultForm V R) (value : V) (asked : Nat) (before : W)
    (told : Except CacheError Unit × (ι → σ)) (filled : Except CacheError Unit × Context W)
    (comes : cells.Comes asked before told filled) :
    cells.Comes asked before (Cells.finish (E := E) form value told)
      (afterFill form value filled) := by
  obtain ⟨answer, contents⟩ := told
  obtain ⟨outcome, context⟩ := filled
  obtain ⟨rfl, moves⟩ := comes
  cases outcome with
  | error error => exact ⟨rfl, moves⟩
  | ok done => exact ⟨rfl, moves⟩

variable [DecidableEq ι]

theorem search_follows (operation : String) (key : K) (done places : List ι) (nearer tiers : List (Tier W K V))
    (context : Context W) (passed : List.Forall₂ cells.Runs done nearer) (stack : List.Forall₂ cells.Runs places tiers)
    (valid : cells.valid context.world) :
    Cells.Follows cells.Runs (cells.search key done places (cells.contents context.world)).1
        (search operation key nearer tiers context).1 ∧
      cells.Moves 0 context.world (cells.search key done places (cells.contents context.world)).2
        (search operation key nearer tiers context).2.world := by
  induction stack generalizing done nearer context with
  | nil => exact ⟨rfl, cells.moves_refl _ valid⟩
  | @cons place tier places tiers runs stack ih =>
      obtain ⟨answered, moves⟩ := runs.get key context.world valid
      rcases read : tier.get key context.world with ⟨answer, after⟩
      rw [read] at answered moves
      rw [search, Context.on_world_of_eq read, Cells.search, ← answered]
      cases answer with
      | error error => exact ⟨rfl, moves⟩
      | ok found =>
          cases found with
          | some value => exact ⟨⟨done, rfl, passed⟩, moves⟩
          | none =>
              have more : List.Forall₂ cells.Runs (done ++ [place]) (nearer ++ [tier]) :=
                List.rel_append passed (.cons runs .nil)
              have rest := ih (done ++ [place]) (nearer ++ [tier])
                (Context.record operation tier.name .miss ⟨after, context.metrics⟩) more moves.valid
              have same : cells.contents (Context.record operation tier.name .miss ⟨after, context.metrics⟩).world =
                  cells.afterGet place key (cells.contents context.world) := moves.contents
              rw [same] at rest
              exact ⟨rest.1, cells.moves_trans moves rest.2⟩

theorem fill_follows (operation : String) (event : Event) (key : K) (value : V) (places : List ι)
    (tiers : List (Tier W K V)) (context : Context W) (stack : List.Forall₂ cells.Runs places tiers)
    (valid : cells.valid context.world) :
    cells.Comes 0 context.world (cells.fill key value places (cells.contents context.world))
      (fill operation event key value tiers context) := by
  induction stack generalizing context with
  | nil => exact ⟨rfl, cells.moves_refl _ valid⟩
  | @cons place tier places tiers runs stack ih =>
      obtain ⟨answered, moves⟩ := runs.put key value context.world valid
      rcases ended : tier.put key value context.world with ⟨answer, after⟩
      rw [ended] at answered moves
      rw [fill, Context.on_world_of_eq ended, Cells.fill, ← answered]
      cases answer with
      | error error => exact ⟨rfl, moves⟩
      | ok done =>
          have rest := ih (Context.record operation tier.name event ⟨after, context.metrics⟩) moves.valid
          have same : cells.contents (Context.record operation tier.name event ⟨after, context.metrics⟩).world =
              cells.afterPut place key value (cells.contents context.world) := moves.contents
          rw [same] at rest
          exact ⟨rest.1, cells.moves_trans moves rest.2⟩

end Resolve

end CacheTiers
