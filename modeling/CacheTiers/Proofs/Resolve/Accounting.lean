import CacheTiers.Proofs.Resolve.Completed
import Mathlib.Data.List.Nodup

namespace CacheTiers

variable {W K V R E A : Type}

namespace Act

-- What happens at most once in a call.
inductive Mark where
  | read (place : Nat)
  | wrote (place : Nat)
  | asked
deriving DecidableEq

def mark? : Act V A → Option Mark
  | .read place _ => some (.read place)
  | .wrote place _ => some (.wrote place)
  | .asks => some .asked
  | _ => none

theorem absences_marks (count : Nat) :
    (absences count : List (Act V A)).filterMap mark? = (List.range count).map Mark.read := by
  induction count with
  | zero => rfl
  | succ count ih =>
      rw [absences_succ, List.filterMap_append, ih, List.range_succ, List.map_append]
      rfl

theorem outcomes_marks (value : V) (place : Nat) (answers : List (Except CacheError Unit)) :
    (outcomes value place answers : List (Act V A)).filterMap mark? =
      (List.range' place answers.length).map Mark.wrote := by
  induction answers generalizing place with
  | nil => rfl
  | cons answer rest ih => exact congrArg (Mark.wrote place :: ·) (ih (place + 1))

end Act

def Act.CountsAs (detached asked : Bool) (place : Nat) (act : Act V A) : Event → Prop
  | .hit => ∃ value, act = .read place (.ok (some value))
  | .miss => act = .read place (.ok none)
  | .store => asked = true ∧ act = .wrote place (.ok ())
  | .backfill => asked = false ∧ act = .wrote place (.ok ())
  | .backfillError => detached = true ∧ asked = false ∧ ∃ error, act = .wrote place (.error error)
  | .call => False

def Event.mark (place : Nat) : Event → Act.Mark
  | .hit | .miss => .read place
  | .store | .backfill | .backfillError => .wrote place
  | .call => .asked

namespace Resolve

section Trail

variable {form : ResultForm V R} {count : Nat} {runtime asked : Bool} {skipped : Nat}
  {trail : List (Act V (Except (Failure E) R))}

theorem marks_nodup {marks : List Act.Mark} (reads writes : Nat) (between : List Act.Mark)
    (origin : between = [] ∨ between = [.asked])
    (told : marks.Perm ((List.range reads).map Act.Mark.read ++ between ++ (List.range writes).map Act.Mark.wrote)) :
    marks.Nodup := by
  have first : ((List.range reads).map Act.Mark.read).Nodup :=
    List.nodup_range.map fun _ _ same => Act.Mark.read.inj same
  have last : ((List.range writes).map Act.Mark.wrote).Nodup :=
    List.nodup_range.map fun _ _ same => Act.Mark.wrote.inj same
  rw [told.nodup_iff]
  rcases origin with rfl | rfl
  · simp [List.nodup_append, first, last]
  · simp [List.nodup_append, first, last]

theorem completed_marks (completed : Completed form count runtime asked skipped trail) :
    (trail.filterMap Act.mark? ++ (List.range skipped).map Act.Mark.wrote).Nodup := by
  have ended (place : Nat) (answer : Lookup V) :
      (Act.absences place ++ [Act.reads place, .read place answer] : List (Act V (Except (Failure E) R))).filterMap Act.mark? =
        (List.range (place + 1)).map Act.Mark.read := by
    rw [List.filterMap_append, Act.absences_marks, List.range_succ, List.map_append]
    rfl
  have gave (given : Except (Failure E) R) :
      (Act.absences count ++ [Act.asks, .gave given] : List (Act V (Except (Failure E) R))).filterMap Act.mark? =
        (List.range count).map Act.Mark.read ++ [.asked] := by
    rw [List.filterMap_append, Act.absences_marks]
    rfl
  have told (value : V) (answers : List (Except CacheError Unit)) (more : List (Act V (Except (Failure E) R)))
      (written : more.Perm (Act.outcomes value 0 answers)) :
      (more.filterMap Act.mark?).Perm ((List.range answers.length).map Act.Mark.wrote) := by
    rw [List.range_eq_range', ← Act.outcomes_marks value 0 answers]
    exact written.filterMap Act.mark?
  cases completed with
  | failed place error within =>
      rw [ended]
      exact marks_nodup (place + 1) 0 [] (.inl rfl) (by simp)
  | hit place value answers more within nearer idle written =>
      rw [List.filterMap_append, ended]
      cases runtime with
      | true =>
          refine marks_nodup (place + 1) answers.length [] (.inl rfl) ?_
          rw [if_pos rfl, List.range_zero, List.map_nil, List.append_nil, List.append_nil]
          exact (told value answers more written).append_left _
      | false =>
          rw [idle rfl, Act.outcomes, List.perm_nil] at written
          refine marks_nodup (place + 1) place [] (.inl rfl) ?_
          rw [written, List.filterMap_nil]
          exact .refl _
  | gave given valueless =>
      rw [gave]
      exact marks_nodup count 0 [.asked] (.inr rfl) (by simp)
  | stored given value answers more valued fits written =>
      rw [List.filterMap_append, gave]
      refine marks_nodup count answers.length [.asked] (.inr rfl) ?_
      rw [List.range_zero, List.map_nil, List.append_nil]
      exact (told value answers more written).append_left _

-- What is in the trail of a resolution that has ended.
structure Told (form : ResultForm V R) (count : Nat) (runtime asked : Bool) (skipped : Nat)
    (trail : List (Act V (Except (Failure E) R))) : Prop where
  places : ∀ act ∈ trail, ∀ place, act.place? = some place → place < count
  origin : .asks ∈ trail ↔ asked = true
  missed : asked = true → ∀ place < count, .read place (.ok none) ∈ trail
  writes : ∀ place value, .writes place value ∈ trail → (∃ answer, .wrote place answer ∈ trail) ∧
    ((asked = true ∧ ∃ given, .gave (.ok given) ∈ trail ∧ form.toValue? given = some value) ∨
      asked = false ∧ ∃ further > place, .read further (.ok (some value)) ∈ trail)
  skipped : ∀ place, place < skipped ↔
    runtime = false ∧ ∃ further value, place < further ∧ .read further (.ok (some value)) ∈ trail

theorem written_behind {value : V} {answers : List (Except CacheError Unit)} {front more : List (Act V A)}
    (unwritten : ∀ place value, .writes place value ∉ front) (written : more.Perm (Act.outcomes value 0 answers)) (place : Nat)
    (given : V) (member : .writes place given ∈ front ++ more) :
    given = value ∧ place < answers.length ∧ ∃ answer, .wrote place answer ∈ front ++ more := by
  have behind := (List.mem_append.mp member).resolve_left (unwritten place given)
  obtain ⟨spot, answer, found, same | same⟩ := (mem_written written _).mp behind
  · cases same
    exact ⟨rfl, (List.getElem?_eq_some_iff.mp found).1, answer,
      List.mem_append_right _ ((mem_written written _).mpr ⟨place, answer, found, .inr rfl⟩)⟩
  · cases same

theorem completed_told (completed : Completed form count runtime asked skipped trail) :
    Told form count runtime asked skipped trail := by
  have absent := Act.mem_absences (V := V) (A := Except (Failure E) R)
  cases completed with
  | failed place error within =>
      refine ⟨?_, ?_, ?_, ?_, ?_⟩
      · grind [Act.place?]
      · grind
      · grind
      · grind
      · grind
  | hit place value answers more within nearer idle written =>
      have members := mem_written written
      refine ⟨?_, ?_, ?_, ?_, ?_⟩
      · grind [Act.place?]
      · grind
      · grind
      · intro spot given member
        obtain ⟨rfl, near, ended⟩ := written_behind (by grind) written spot given member
        refine ⟨ended, .inr ⟨rfl, place, Nat.lt_of_lt_of_le near nearer, ?_⟩⟩
        exact List.mem_append_left _ (List.mem_append_right _ (by simp))
      · grind
  | gave given valueless =>
      refine ⟨?_, ?_, ?_, ?_, ?_⟩
      · grind [Act.place?]
      · grind
      · grind
      · grind
      · grind
  | stored given value answers more valued fits written =>
      have members := mem_written written
      refine ⟨?_, ?_, ?_, ?_, ?_⟩
      · grind [Act.place?]
      · grind
      · grind
      · intro spot held member
        obtain ⟨rfl, near, ended⟩ := written_behind (by grind) written spot held member
        refine ⟨ended, .inl ⟨rfl, given, ?_, valued⟩⟩
        exact List.mem_append_left _ (List.mem_append_right _ (by simp))
      · grind

end Trail

-- What must have happened for an event to be counted for the tier in a place.
def Happened (detached runtime : Bool) (trail : List (Act V A)) (place : Nat) : Event → Prop
  | .hit => ∃ value, .read place (.ok (some value)) ∈ trail
  | .miss => .read place (.ok none) ∈ trail
  | .store => .asks ∈ trail ∧ .wrote place (.ok ()) ∈ trail
  | .backfill => .asks ∉ trail ∧ .wrote place (.ok ()) ∈ trail
  | .backfillError => (detached = true ∧ .asks ∉ trail ∧ ∃ error, .wrote place (.error error) ∈ trail) ∨
    runtime = false ∧ ∃ further value, place < further ∧ .read further (.ok (some value)) ∈ trail
  | .call => False

-- What a call has counted, which has ended with this trail.
structure Accounting (operation : String) (form : ResultForm V R) (names : List String) (detached runtime : Bool)
    (trail : List (Act V (Except (Failure E) R))) (before after : Metrics) : Prop where
  enabled : after.enabled = before.enabled
  tiers : ∀ place name, names[place]? = some name → ∀ event, event ≠ .call →
    before.CountsOnce after ⟨operation, name, event⟩ (Happened detached runtime trail place event)
  origin : before.CountsOnce after (.origin operation) (.asks ∈ trail)
  others : ∀ counter, counter ≠ .origin operation →
    (∀ name ∈ names, ∀ event, event ≠ .call → counter ≠ ⟨operation, name, event⟩) → after.count counter = before.count counter
  asked : .asks ∈ trail → ∀ place < names.length, .read place (.ok none) ∈ trail
  writes : ∀ place value, .writes place value ∈ trail → (∃ answer, .wrote place answer ∈ trail) ∧
    ((.asks ∈ trail ∧ ∃ given, .gave (.ok given) ∈ trail ∧ form.toValue? given = some value) ∨
      .asks ∉ trail ∧ ∃ further > place, .read further (.ok (some value)) ∈ trail)

section Counts

variable {operation : String} {names : Nat → String} {detached asked : Bool}

theorem count_flat_map_le {α β γ : Type} [DecidableEq β] [DecidableEq γ] (items : List α) (all : α → List β)
    (mark? : α → Option γ) (one : β) (mark : γ) (single : ∀ item ∈ items, (all item).length ≤ 1)
    (only : ∀ item ∈ items, one ∈ all item → mark? item = some mark) :
    (items.flatMap all).count one ≤ (items.filterMap mark?).count mark := by
  induction items with
  | nil => exact Nat.le_refl _
  | cons item rest ih =>
      obtain ⟨short, shorts⟩ := List.forall_mem_cons.mp single
      obtain ⟨here, others⟩ := List.forall_mem_cons.mp only
      have further := ih shorts others
      rw [List.flatMap_cons, List.count_append]
      by_cases member : one ∈ all item
      · have once := Nat.le_trans (List.count_le_length (a := one) (l := all item)) short
        rw [List.filterMap_cons_some (here member), List.count_cons_self]
        omega
      · rw [List.count_eq_zero_of_not_mem member]
        have longer : (rest.filterMap mark?).count mark ≤ ((item :: rest).filterMap mark?).count mark :=
          ((List.sublist_cons_self item rest).filterMap mark?).count_le mark
        omega

theorem counts_as_mark {act : Act V A} {place : Nat} {event : Event} (counts : act.CountsAs detached asked place event) :
    act.place? = some place ∧ act.mark? = some (event.mark place) := by
  cases event with
  | hit =>
      obtain ⟨value, rfl⟩ := counts
      exact ⟨rfl, rfl⟩
  | miss =>
      obtain rfl := counts
      exact ⟨rfl, rfl⟩
  | store | backfill =>
      obtain ⟨_, rfl⟩ := counts
      exact ⟨rfl, rfl⟩
  | backfillError =>
      obtain ⟨_, _, error, rfl⟩ := counts
      exact ⟨rfl, rfl⟩
  | call => exact counts.elim

theorem mem_counted (counter : Counter) (act : Act V A) :
    counter ∈ Act.counted operation names (takenAs asked) (lostAs detached asked) act ↔
      (act = .asks ∧ counter = .origin operation) ∨
        ∃ place event, counter = ⟨operation, names place, event⟩ ∧ act.CountsAs detached asked place event := by
  constructor
  · intro member
    cases act with
    | reads place => cases member
    | writes place value => cases member
    | gave answer => cases member
    | asks => exact .inl ⟨rfl, List.mem_singleton.mp member⟩
    | read place answer =>
        rcases answer with error | _ | value
        · cases member
        · exact .inr ⟨place, .miss, List.mem_singleton.mp member, rfl⟩
        · exact .inr ⟨place, .hit, List.mem_singleton.mp member, value, rfl⟩
    | wrote place answer =>
        cases answer with
        | ok done =>
            cases asked with
            | true => exact .inr ⟨place, .store, List.mem_singleton.mp member, rfl, rfl⟩
            | false => exact .inr ⟨place, .backfill, List.mem_singleton.mp member, rfl, rfl⟩
        | error error =>
            cases detached with
            | false => cases member
            | true =>
                cases asked with
                | true => cases member
                | false => exact .inr ⟨place, .backfillError, List.mem_singleton.mp member, rfl, rfl, error, rfl⟩
  · rintro (⟨rfl, rfl⟩ | ⟨place, event, rfl, counts⟩)
    · exact List.mem_singleton_self _
    · cases event with
      | call => exact counts.elim
      | hit =>
          obtain ⟨value, rfl⟩ := counts
          exact List.mem_singleton_self _
      | miss =>
          obtain rfl := counts
          exact List.mem_singleton_self _
      | store | backfill =>
          obtain ⟨rfl, rfl⟩ := counts
          exact List.mem_singleton_self _
      | backfillError =>
          obtain ⟨rfl, rfl, error, rfl⟩ := counts
          exact List.mem_singleton_self _

theorem counted_short (act : Act V A) :
    (Act.counted operation names (takenAs asked) (lostAs detached asked) act).length ≤ 1 := by
  cases act with
  | read place answer => rcases answer with error | _ | value <;> simp [Act.counted]
  | wrote place answer =>
      cases answer with
      | ok done => exact Nat.le_refl _
      | error error => cases detached <;> cases asked <;> simp [Act.counted, written, lostAs]
  | _ => simp [Act.counted]

variable {form : ResultForm V R} {count : Nat} {runtime : Bool} {skipped : Nat}
  {trail : List (Act V (Except (Failure E) R))}

theorem counted_at_most_once (completed : Completed form count runtime asked skipped trail) (counter : Counter) (mark : Act.Mark)
    (only : ∀ act ∈ trail, counter ∈ Act.counted operation names (takenAs asked) (lostAs detached asked) act →
      act.mark? = some mark)
    (skips : ∀ place < skipped, counter = ⟨operation, names place, .backfillError⟩ → Act.Mark.wrote place = mark) :
    (trail.flatMap (Act.counted operation names (takenAs asked) (lostAs detached asked)) ++
      skippedCounters operation names skipped).count counter ≤ 1 := by
  have ended := count_flat_map_le trail _ Act.mark? counter mark (fun act _ => counted_short act) only
  have missing := count_flat_map_le (List.range skipped) (fun place => [(⟨operation, names place, .backfillError⟩ : Counter)])
    (some ∘ Act.Mark.wrote) counter mark (fun _ _ => Nat.le_refl _) (by
      intro place member same
      exact congrArg some (skips place (List.mem_range.mp member) (List.mem_singleton.mp same)))
  rw [← List.map_eq_flatMap, List.filterMap_eq_map] at missing
  have once := List.nodup_iff_count_le_one.mp (completed_marks completed) mark
  rw [List.count_append] at once ⊢
  exact Nat.le_trans (Nat.add_le_add ended missing) once

end Counts

def nameAt (names : List String) (place : Nat) : String := names[place]?.getD ""

theorem named_at (tiers : List (Tier W K V)) : Named (nameAt (tiers.map Tier.name)) 0 tiers := by
  intro spot tier found
  rw [nameAt, Nat.zero_add, List.getElem?_map, found]
  rfl

section Happens

variable {operation : String} {names : List String} {detached asked : Bool} {form : ResultForm V R} {runtime : Bool}
  {skipped : Nat} {trail : List (Act V (Except (Failure E) R))}

theorem mem_counters (counter : Counter) :
    counter ∈ trail.flatMap (Act.counted operation (nameAt names) (takenAs asked) (lostAs detached asked)) ++
        skippedCounters operation (nameAt names) skipped ↔
      (∃ act ∈ trail, counter ∈ Act.counted operation (nameAt names) (takenAs asked) (lostAs detached asked) act) ∨
        ∃ place < skipped, counter = ⟨operation, nameAt names place, .backfillError⟩ := by
  simp [skippedCounters, eq_comm]

theorem name_at_injective (distinct : names.Nodup) {place spot : Nat} {name : String} (here : names[place]? = some name)
    (within : spot < names.length) (same : name = nameAt names spot) : spot = place := by
  obtain ⟨near, found⟩ := List.getElem?_eq_some_iff.mp here
  rw [nameAt, List.getElem?_eq_getElem within, Option.getD_some, ← found] at same
  exact (distinct.getElem_inj_iff.mp same).symm

theorem told_skipped {count : Nat} (told : Told form count runtime asked skipped trail) (place : Nat)
    (below : place < skipped) : place < count := by
  obtain ⟨_, further, value, behind, member⟩ := (told.skipped place).mp below
  exact Nat.lt_trans behind (told.places _ member further rfl)

theorem happened_iff (told : Told form names.length runtime asked skipped trail) (distinct : names.Nodup) (place : Nat)
    (name : String) (here : names[place]? = some name) (event : Event) (tiers : event ≠ .call) :
    (⟨operation, name, event⟩ : Counter) ∈
        trail.flatMap (Act.counted operation (nameAt names) (takenAs asked) (lostAs detached asked)) ++
          skippedCounters operation (nameAt names) skipped ↔ Happened detached runtime trail place event := by
  have within := (List.getElem?_eq_some_iff.mp here).1
  have named : nameAt names place = name := by rw [nameAt, here, Option.getD_some]
  have counted : (∃ act ∈ trail, (⟨operation, name, event⟩ : Counter) ∈
      Act.counted operation (nameAt names) (takenAs asked) (lostAs detached asked) act) ↔
        ∃ act ∈ trail, act.CountsAs detached asked place event := by
    constructor
    · rintro ⟨act, inTrail, member⟩
      rcases (mem_counted _ act).mp member with ⟨_, origin⟩ | ⟨spot, other, same, counts⟩
      · cases origin
        exact absurd rfl tiers
      · obtain ⟨_, alike, rfl⟩ := Counter.mk.inj same
        have reached := told.places act inTrail spot (counts_as_mark counts).1
        obtain rfl := name_at_injective distinct here reached alike
        exact ⟨act, inTrail, counts⟩
    · rintro ⟨act, inTrail, counts⟩
      exact ⟨act, inTrail, (mem_counted _ act).mpr (.inr ⟨place, event, by rw [named], counts⟩)⟩
  have missing : (∃ spot < skipped, (⟨operation, name, event⟩ : Counter) = ⟨operation, nameAt names spot, .backfillError⟩) ↔
      event = .backfillError ∧ place < skipped := by
    constructor
    · rintro ⟨spot, below, same⟩
      obtain ⟨_, alike, rfl⟩ := Counter.mk.inj same
      obtain rfl := name_at_injective distinct here (told_skipped told spot below) alike
      exact ⟨rfl, below⟩
    · rintro ⟨rfl, below⟩
      exact ⟨place, below, by rw [named]⟩
  rw [mem_counters, counted, missing]
  cases event with
  | call => exact absurd rfl tiers
  | hit => simp [Happened, Act.CountsAs]
  | miss => simp [Happened, Act.CountsAs]
  | store => simp [Happened, Act.CountsAs, told.origin, and_comm]
  | backfill => simp [Happened, Act.CountsAs, told.origin, and_comm]
  | backfillError => simp [Happened, Act.CountsAs, told.origin, told.skipped, and_comm, and_assoc]

theorem completed_accounting {timers : List Timer} {before after : Metrics} (distinct : names.Nodup)
    (completed : Completed form names.length runtime asked skipped trail)
    (grows : Metrics.Grows (trail.flatMap (Act.counted operation (nameAt names) (takenAs asked) (lostAs detached asked)) ++
      skippedCounters operation (nameAt names) skipped) timers before after) (enabled : before.enabled = true) :
    Accounting operation form names detached runtime trail before after := by
  have told := completed_told completed
  refine ⟨grows.enabled, ?_, ?_, ?_, fun origin => told.missed (told.origin.mp origin), ?_⟩
  · intro place name here event tiers
    apply Metrics.counts_once grows enabled _ ?_ (happened_iff told distinct place name here event tiers)
    refine counted_at_most_once completed _ (event.mark place) ?_ ?_
    · intro act inTrail member
      rcases (mem_counted _ act).mp member with ⟨_, origin⟩ | ⟨spot, other, same, counts⟩
      · cases origin
        exact absurd rfl tiers
      · obtain ⟨_, alike, rfl⟩ := Counter.mk.inj same
        obtain ⟨shown, mark⟩ := counts_as_mark counts
        obtain rfl := name_at_injective distinct here (told.places act inTrail spot shown) alike
        exact mark
    · intro spot below same
      obtain ⟨_, alike, rfl⟩ := Counter.mk.inj same
      obtain rfl := name_at_injective distinct here (told_skipped told spot below) alike
      rfl
  · refine Metrics.counts_once grows enabled _ (counted_at_most_once completed _ .asked ?_ ?_) ?_
    · intro act inTrail member
      rcases (mem_counted _ act).mp member with ⟨rfl, _⟩ | ⟨spot, other, same, counts⟩
      · rfl
      · obtain rfl : Event.call = other := (Counter.mk.inj same).2.2
        exact counts.elim
    · intro spot below same
      cases (Counter.mk.inj same).2.2
    · rw [mem_counters]
      constructor
      · rintro (⟨act, inTrail, member⟩ | ⟨spot, below, same⟩)
        · rcases (mem_counted _ act).mp member with ⟨rfl, _⟩ | ⟨spot, other, same, counts⟩
          · exact inTrail
          · obtain rfl : Event.call = other := (Counter.mk.inj same).2.2
            exact counts.elim
        · cases (Counter.mk.inj same).2.2
      · exact fun member => .inl ⟨.asks, member, (mem_counted _ _).mpr (.inl ⟨rfl, rfl⟩)⟩
  · intro counter other elsewhere
    rw [grows.counts, if_pos enabled, List.count_eq_zero_of_not_mem, Nat.add_zero]
    rw [mem_counters]
    have among (spot : Nat) (within : spot < names.length) : nameAt names spot ∈ names := by
      rw [nameAt, List.getElem?_eq_getElem within]
      exact List.getElem_mem within
    rintro (⟨act, inTrail, member⟩ | ⟨spot, below, same⟩)
    · rcases (mem_counted _ act).mp member with ⟨_, origin⟩ | ⟨spot, event, same, counts⟩
      · exact other origin
      · have tiers : event ≠ .call := by
          rintro rfl
          exact counts
        exact elsewhere _ (among spot (told.places act inTrail spot (counts_as_mark counts).1)) event tiers same
    · exact elsewhere _ (among spot (told_skipped told spot below)) .backfillError (by simp) same
  · intro place value member
    obtain ⟨ended, ⟨origin, given⟩ | ⟨unasked, hit⟩⟩ := told.writes place value member
    · exact ⟨ended, .inl ⟨told.origin.mpr origin, given⟩⟩
    · refine ⟨ended, .inr ⟨fun member => ?_, hit⟩⟩
      rw [told.origin.mp member] at unasked
      cases unasked

end Happens

end Resolve

end CacheTiers
