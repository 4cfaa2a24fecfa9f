import CacheTiers.Proofs.Resolve.Outcome
import CacheTiers.Proofs.World.Cells

namespace CacheTiers

structure Memories (places : List Nat) (entries : Json → Option Json) (contents : Nat → Option TierState) : Prop where
  each : ∀ place ∈ places, ∃ memory, contents place = some (.memory memory) ∧ memory.keeps = true ∧
    ∀ key, memory.find? key = entries key

namespace Memories

variable {R E : Type}

def learn (key value : Json) (entries : Json → Option Json) (other : Json) : Option Json :=
  if other = key then some value else entries other

def recalled (operation : String) (form : ResultForm Json R) (key : Json) (given : Except (Failure E) R)
    (entries : Json → Option Json) : Except (Failure E) R × (Json → Option Json) :=
  match entries key with
  | some value => (.ok (form.ofValue value), entries)
  | none =>
    match given with
    | .error failure => (.error failure, entries)
    | .ok result =>
      match form.toValue? result with
      | some value => (.ok (form.ofValue value), learn key value entries)
      | none => (Resolve.absentResult form operation, entries)

theorem find_insert (memory : Memory Json Json) (key value other : Json) (keeps : memory.keeps = true) :
    (memory.insert key value).find? other = learn key value memory.find? other := by
  by_cases same : other = key
  · simp_all [Memory.insert, Memory.find?, Memory.keeps, learn]
  · simp_all [Memory.insert, Memory.find?, Memory.keeps, learn]

theorem insert_keeps (memory : Memory Json Json) (key value : Json) (keeps : memory.keeps = true) :
    (memory.insert key value).keeps = true := by
  simp_all [Memory.insert, Memory.keeps]

section Stack

variable {places : List Nat} {entries : Json → Option Json} {contents : Nat → Option TierState}

theorem mono (memories : Memories places entries contents) (fewer : List Nat)
    (among : ∀ place ∈ fewer, place ∈ places) :
    Memories fewer entries contents := ⟨fun place member => memories.each place (among place member)⟩

theorem valid (memories : Memories places entries contents) (world : World) (here : world.state? = contents) :
    (World.cells places).valid world := by
  intro index member
  obtain ⟨memory, held, _⟩ := memories.each index member
  exact ⟨.memory memory, by rw [here, held], trivial⟩

theorem get_state (memories : Memories places entries contents) (place : Nat) (member : place ∈ places) (key : Json) :
    World.getState key (contents place) = (.ok (entries key), contents place) := by
  obtain ⟨memory, held, _, reads⟩ := memories.each place member
  rw [held, World.getState, reads key]

theorem put_taken (memories : Memories places entries contents) (place : Nat) (member : place ∈ places)
    (key value : Json) : (World.putState key value (contents place)).1 = .ok () := by
  obtain ⟨memory, held, _⟩ := memories.each place member
  rw [held, World.putState]

theorem search_held (memories : Memories places entries contents) (all : List Nat) (key value : Json)
    (inhabited : places ≠ []) (held : entries key = some value) :
    (World.cells all).search key [] places contents = (.hit [] value, contents) := by
  cases places with
  | nil => exact absurd rfl inhabited
  | cons place rest =>
      have read := memories.get_state place (by simp) key
      simp only [Cells.search, Cells.afterGet, World.cells, read, held, Function.update_eq_self]

theorem search_unknown (memories : Memories places entries contents) (all nearer : List Nat) (key : Json)
    (absent : entries key = none) : (World.cells all).search key nearer places contents = (.missed, contents) := by
  induction places generalizing nearer with
  | nil => rfl
  | cons place rest ih =>
      have read := memories.get_state place (by simp) key
      have further := ih (memories.mono rest (fun other member => by simp [member])) (nearer ++ [place])
      simp only [Cells.search, Cells.afterGet, World.cells, read, absent, Function.update_eq_self] at further ⊢
      exact further

theorem fault_none (memories : Memories places entries contents) (all : List Nat) (key value : Json) :
    (World.cells all).fault? key value places contents = none := by
  induction places with
  | nil => rfl
  | cons place rest ih =>
      have taken := memories.put_taken place (by simp) key value
      have further := ih (memories.mono rest (fun other member => by simp [member]))
      simp only [Cells.fault?, Cells.answers, World.cells, List.map_cons, taken, Resolve.firstError?] at further ⊢
      exact further

theorem written_learns (memories : Memories places entries contents) (all : List Nat) (key value : Json) :
    Memories places (learn key value entries) ((World.cells all).written key value places contents) := by
  refine ⟨?_⟩
  intro place member
  obtain ⟨memory, held, keeps, reads⟩ := memories.each place member
  refine ⟨memory.insert key value, ?_, insert_keeps memory key value keeps, ?_⟩
  · simp only [Cells.written, World.cells, if_pos member, held, World.putState]
  · intro other
    rw [find_insert memory key value other keeps, learn, learn, reads other]

-- Both ways of writing to the nearer tiers do nothing here, and both ways of writing to all of them agree.
theorem resolved_recalled (memories : Memories places entries contents) (all : List Nat)
    (backfill store : Json → Json → List Nat → (Nat → Option TierState) → Except CacheError Unit × (Nat → Option TierState))
    (operation : String) (form : ResultForm Json R) (key : Json) (given : Except (Failure E) R)
    (inhabited : places ≠ [])
    (idle : ∀ value, backfill key value [] contents = (.ok (), contents))
    (stores : ∀ value, store key value places contents = (.ok (), (World.cells all).written key value places contents)) :
    let resolved := (World.cells all).resolved backfill store operation form key places given contents
    resolved.1 = (recalled operation form key given entries).1 ∧
      Memories places (recalled operation form key given entries).2 resolved.2 := by
  intro resolved
  simp only [resolved, Cells.resolved, recalled]
  cases held : entries key with
  | some value =>
      rw [memories.search_held all key value inhabited held]
      simp only [idle, Cells.finish]
      exact ⟨trivial, memories⟩
  | none =>
      rw [memories.search_unknown all [] key held]
      cases given with
      | error failure => exact ⟨rfl, memories⟩
      | ok result =>
          dsimp only
          cases form.toValue? result with
          | none => exact ⟨rfl, memories⟩
          | some value =>
              simp only [stores, Cells.finish]
              exact ⟨trivial, memories.written_learns all key value⟩

theorem fill_taken (memories : Memories places entries contents) (all : List Nat) (key value : Json)
    (apart : places.Nodup) :
    (World.cells all).fill key value places contents = (.ok (), (World.cells all).written key value places contents) :=
    by
  have taken := memories.fault_none all key value
  rw [(World.cells all).fill_issue key value places contents apart taken, Cells.issue, taken]

theorem issue_taken (memories : Memories places entries contents) (all : List Nat) (key value : Json) :
    (World.cells all).issue key value places contents =
    (.ok (), (World.cells all).written key value places contents) := by
  rw [Cells.issue, memories.fault_none all key value]

theorem asks_unknown (memories : Memories places entries contents) (all : List Nat) (key : Json)
    (inhabited : places ≠ []) :
    (World.cells all).asks key places contents = if (entries key).isSome then 0 else 1 := by
  rw [Cells.asks]
  cases held : entries key with
  | some value =>
      rw [memories.search_held all key value inhabited held]
      rfl
  | none =>
      rw [memories.search_unknown all [] key held]
      rfl

end Stack

end Memories

end CacheTiers
