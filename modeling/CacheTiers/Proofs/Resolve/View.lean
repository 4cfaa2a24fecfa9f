import CacheTiers.Proofs.Job.Abides
import CacheTiers.Proofs.Resolve.Counting
import CacheTiers.Operation
import CacheTiers.World.Basic

namespace CacheTiers

-- The worlds that a view is valid of are those in which the tiers are what they are taken for. Places need
-- not be apart: a put may store its value at several of them.
structure View (ι W K V : Type) where
  valid : W → Prop
  held : ι → W → K → Option V
  asked : W → Nat

namespace View

variable {ι W K V A : Type} (view : View ι W K V)

def Stays (before after : W) : Prop := view.valid before → view.valid after

def Rests (before after : W) : Prop :=
  view.valid before → view.valid after ∧ ∀ place, view.held place after = view.held place before

def Same (before after : W) : Prop := view.Rests before after ∧ view.asked after = view.asked before

def Adds (key : K) (value : V) (before after : W) : Prop :=
  (view.valid before → view.valid after ∧
    ∀ place other, view.held place after other = view.held place before other ∨
      other = key ∧ view.held place after other = some value) ∧
  view.asked after = view.asked before

def Consulted (before after : W) : Prop := view.Rests before after ∧ view.asked after = view.asked before + 1

def Asks (origin : W → A × W) : Prop := ∀ world, view.Consulted world (origin world).2

-- A suspending origin is counted when it starts.
def AsksLate (origin : Job W A) : Prop :=
  ∀ world, match origin world with
    | .ready _ after => view.Consulted world after
    | .pending rest after =>
      view.Consulted world after ∧ Poll.Abides Eq view.Same (fun _ _ => True) after (rest after)

theorem asks_late_rests (origin : Job W A) (world : W) (asks : view.AsksLate origin) :
    Poll.Abides Eq view.Rests (fun _ _ => True) world (origin world) := by
  have begins := asks world
  cases started : origin world with
  | ready answer after =>
      rw [started] at begins
      exact ⟨begins.1, trivial⟩
  | pending rest after =>
      rw [started] at begins
      refine ⟨begins.1.1, ?_⟩
      rintro later rfl
      exact Poll.abides_mono begins.2 (fun _ _ equal => equal) (fun _ _ same => same.1) (fun _ _ _ => trivial)

theorem composes_stays : Composes view.Stays :=
  ⟨fun _ valid => valid, fun _ _ _ first second valid => second (first valid)⟩

theorem composes_rests : Composes view.Rests := by
  refine ⟨fun _ valid => ⟨valid, fun _ => rfl⟩, ?_⟩
  intro a b c first second valid
  obtain ⟨middle, kept⟩ := first valid
  obtain ⟨last, later⟩ := second middle
  exact ⟨last, fun place => (later place).trans (kept place)⟩

theorem composes_same : Composes view.Same :=
  ⟨fun world => ⟨view.composes_rests.refl world, rfl⟩, fun a b c first second =>
    ⟨view.composes_rests.trans a b c first.1 second.1, second.2.trans first.2⟩⟩

theorem composes_adds (key : K) (value : V) : Composes (view.Adds key value) := by
  refine ⟨fun _ => ⟨fun valid => ⟨valid, fun _ _ => .inl rfl⟩, rfl⟩, ?_⟩
  intro a b c first second
  refine ⟨?_, second.2.trans first.2⟩
  intro valid
  obtain ⟨middle, before⟩ := first.1 valid
  obtain ⟨last, after⟩ := second.1 middle
  refine ⟨last, ?_⟩
  intro place other
  rcases after place other with kept | stored
  · rw [kept]
    exact before place other
  · exact .inr stored

theorem adds_of_same (key : K) (value : V) (before after : W) (same : view.Same before after) :
    view.Adds key value before after := by
  refine ⟨?_, same.2⟩
  intro valid
  obtain ⟨later, kept⟩ := same.1 valid
  exact ⟨later, fun place other => .inl (congrFun (kept place) other)⟩

def Reads (place : ι) (key : K) (before : W) (answer : Lookup V) : Prop :=
  ∀ found, answer = .ok found → found = view.held place before key

def Keeps (key : K) (told : Lookup V) (before : W) (answer : Lookup V) (after : W) : Prop :=
  match told with
  | .ok (some value) => view.Adds key value before after ∧ ∀ found, answer = .ok found → found = some value
  | .ok none => view.Same before after ∧ ∀ found, answer = .ok found → found = none
  | .error error => view.Same before after ∧ answer = .error error

def Consults (place : ι) (key : K) (before : W) : Consult W V → Prop
  | .answer outcome after => view.Same before after ∧ view.Reads place key before outcome
  | .ask resume after =>
    view.Same before after ∧ view.held place before key = none ∧
      ∀ told later, view.valid later → view.Keeps key told later (resume told later).1 (resume told later).2

structure Mapped (place : ι) (tier : Tier W K V) : Prop where
  get : ∀ key world, view.valid world →
    view.Same world (tier.get key world).2 ∧ view.Reads place key world (tier.get key world).1
  put : ∀ key value world, view.valid world → view.Adds key value world (tier.put key value world).2
  compute : ∀ key world, view.valid world → view.Consults place key world (tier.computeIfAbsent key world)
  getAsync : ∀ key world, view.valid world →
    Poll.Abides Eq view.Same (fun answer _ => view.Reads place key world answer) world (tier.getAsync key world)
  putAsync : ∀ key value world, view.valid world →
    Poll.Abides view.Stays (view.Adds key value) (fun _ _ => True) world (tier.putAsync key value world)

theorem keep_keeps (put : K → V → W → Except CacheError Unit × W) (key : K) (told : Lookup V) (before : W)
    (stores : ∀ value, view.Adds key value before (put key value before).2) :
    view.Keeps key told before (Tier.keep put key told before).1 (Tier.keep put key told before).2 := by
  cases told with
  | error error => exact ⟨view.composes_same.refl before, rfl⟩
  | ok given =>
      cases given with
      | none => exact ⟨view.composes_same.refl before, fun found same => by cases same; rfl⟩
      | some value =>
          have stored := stores value
          simp only [Tier.keep, Keeps]
          generalize put key value before = written at stored
          obtain ⟨answer, after⟩ := written
          cases answer with
          | error error => exact ⟨stored, fun found impossible => by cases impossible⟩
          | ok done => exact ⟨stored, fun found same => by cases same; rfl⟩

theorem get_then_put_consults (get : K → W → Lookup V × W) (put : K → V → W → Except CacheError Unit × W)
    (place : ι) (key : K) (before : W)
    (reads : view.Same before (get key before).2 ∧ view.Reads place key before (get key before).1)
    (stores : ∀ value world, view.valid world → view.Adds key value world (put key value world).2) :
    view.Consults place key before (Tier.getThenPut get put key before) := by
  simp only [Tier.getThenPut]
  generalize get key before = read at reads
  obtain ⟨outcome, after⟩ := read
  obtain ⟨same, reads⟩ := reads
  cases outcome with
  | error error => exact ⟨same, reads⟩
  | ok found =>
      cases found with
      | some value => exact ⟨same, reads⟩
      | none =>
          refine ⟨same, (reads none rfl).symm, ?_⟩
          intro told later valid
          exact view.keep_keeps put key told later (fun value => stores value later valid)

end View

end CacheTiers
