import CacheTiers.Proofs.Manager.Build
import Mathlib.Data.List.Forall2

namespace CacheTiers

namespace Registry

variable {registry : Registry} {operation : String} {signature : Signature}

-- The tiers that an operation is given for its tier names, and the states of those that are made, in slots from `next` on.
inductive Supply (registry : Registry) (operation : String) (signature : Signature) :
    Nat → List String → List TierRef → List TierState → Prop where
  | nil (next : Nat) : Supply registry operation signature next [] [] []
  | registered {next : Nat} {name : String} {ref : TierRef} {names : List String} {refs : List TierRef}
    {states : List TierState} (found : registry.registered.find? ⟨name, signature.key, signature.value⟩ = some ref)
    (rest : Supply registry operation signature next names refs states) :
    Supply registry operation signature next (name :: names) (ref :: refs) states
  | made {next : Nat} {name : String} {setup : TierSetup} {state : TierState} {names : List String}
    {refs : List TierRef} {states : List TierState}
    (unregistered : registry.registered.find? ⟨name, signature.key, signature.value⟩ = none)
    (configured : registry.tiers.find? name = some setup)
    (fits : stateFor name operation signature.value setup = .ok state)
    (rest : Supply registry operation signature (next + 1) names refs states) :
    Supply registry operation signature next (name :: names) (⟨next, name⟩ :: refs) (state :: states)

theorem tiers_for_supply (names : List String) (world after : World) (refs : List TierRef)
    (made : registry.tiersFor operation signature names world = .ok (refs, after)) :
    ∃ states, Supply registry operation signature world.slots.length names refs states ∧ after = world.addAll states := by
  induction names generalizing world after refs with
  | nil =>
      cases made
      exact ⟨[], .nil _, by simp [World.addAll]⟩
  | cons name rest ih =>
      rw [tiersFor, tierFor] at made
      cases found : registry.registered.find? ⟨name, signature.key, signature.value⟩ with
      | some ref =>
          simp only [found, bind, Except.bind] at made
          cases others : registry.tiersFor operation signature rest world with
          | error error => simp [others] at made
          | ok supplied =>
              obtain ⟨states, supply, grown⟩ := ih world supplied.2 supplied.1 others
              simp only [others, pure, Except.pure, Except.ok.injEq, Prod.mk.injEq] at made
              obtain ⟨rfl, rfl⟩ := made
              exact ⟨states, .registered found supply, grown⟩
      | none =>
          simp only [found] at made
          cases configured : registry.tiers.find? name with
          | none => simp [configured, bind, Except.bind] at made
          | some setup =>
              simp only [configured, fresh_tier_state] at made
              cases fits : stateFor name operation signature.value setup with
              | error error => simp [fits, Except.map, bind, Except.bind] at made
              | ok state =>
                  simp only [fits, Except.map, bind, Except.bind] at made
                  cases others : registry.tiersFor operation signature rest (world.add state false).2 with
                  | error error => simp [others] at made
                  | ok supplied =>
                      obtain ⟨states, supply, grown⟩ := ih _ supplied.2 supplied.1 others
                      simp only [others, pure, Except.pure, Except.ok.injEq, Prod.mk.injEq] at made
                      obtain ⟨rfl, rfl⟩ := made
                      have size : (world.add state false).2.slots.length = world.slots.length + 1 := by
                        simp [World.add]
                      rw [size] at supply
                      have named := state_for_name name operation signature.value setup state fits
                      refine ⟨state :: states, ?_, ?_⟩
                      · rw [World.add, named]
                        exact .made found configured fits supply
                      · rw [grown]
                        simp [World.add, World.addAll]

inductive Supplied (registry : Registry) (operation : String) (signature : Signature) (before after : World)
    (name : String) (ref : TierRef) : Prop where
  | registered (found : registry.registered.find? ⟨name, signature.key, signature.value⟩ = some ref)
  | made (unregistered : registry.registered.find? ⟨name, signature.key, signature.value⟩ = none) (setup : TierSetup)
    (configured : registry.tiers.find? name = some setup) (fresh : before.slots.length ≤ ref.index)
    (stands : ∃ state, stateFor name operation signature.value setup = .ok state ∧ after.state? ref.index = some state)

theorem supply_supplied (before after : World) {next : Nat} {names : List String} {refs : List TierRef}
    {states : List TierState} (supply : Supply registry operation signature next names refs states)
    (fresh : before.slots.length ≤ next) (stand : ∀ place, after.state? (next + place) = states[place]?) :
    List.Forall₂ (Supplied registry operation signature before after) names refs := by
  induction supply with
  | nil next => exact .nil
  | registered found rest ih => exact .cons (.registered found) (ih fresh stand)
  | @made next name setup state names refs states unregistered configured fits rest ih =>
      refine .cons (.made unregistered setup configured fresh ⟨state, fits, stand 0⟩) (ih (by omega) ?_)
      intro place
      have shifted := stand (place + 1)
      rw [show next + (place + 1) = next + 1 + place by omega] at shifted
      exact shifted

theorem supply_bounds {next bound : Nat} {names : List String} {refs : List TierRef} {states : List TierState}
    (supply : Supply registry operation signature next names refs states)
    (present : ∀ stand ref, registry.registered.find? stand = some ref → ref.index < bound)
    (room : bound ≤ next) : ∀ ref ∈ refs, ref.index < next + states.length := by
  induction supply with
  | nil next => simp
  | registered found rest ih =>
      have known := present _ _ found
      exact List.forall_mem_cons.mpr ⟨by omega, ih room⟩
  | made unregistered configured fits rest ih =>
      have others := ih (by omega)
      simp only [List.length_cons]
      refine List.forall_mem_cons.mpr ⟨?_, ?_⟩
      · dsimp only
        omega
      · intro ref member
        have := others ref member
        omega

theorem supply_behind {next bound : Nat} {names : List String} {refs : List TierRef} {states : List TierState}
    (supply : Supply registry operation signature next names refs states)
    (present : ∀ stand ref, registry.registered.find? stand = some ref → ref.index < bound) :
    ∀ ref ∈ refs, ref.index < bound ∨ next ≤ ref.index := by
  induction supply with
  | nil next => simp
  | registered found rest ih => exact List.forall_mem_cons.mpr ⟨.inl (present _ _ found), ih⟩
  | made unregistered configured fits rest ih =>
      refine List.forall_mem_cons.mpr ⟨.inr (Nat.le_refl _), ?_⟩
      intro ref member
      rcases ih ref member with old | new
      · exact .inl old
      · exact .inr (by omega)

theorem supply_apart {next bound : Nat} {names : List String} {refs : List TierRef} {states : List TierState}
    (supply : Supply registry operation signature next names refs states)
    (present : ∀ stand ref, registry.registered.find? stand = some ref → ref.index < bound) (room : bound ≤ next)
    (place other : Nat) (ref twin : TierRef) (here : refs[place]? = some ref) (there : refs[other]? = some twin)
    (different : place ≠ other) (fresh : bound ≤ ref.index) : ref.index ≠ twin.index := by
  -- The registered tiers were there before the slot was made, and the next tier that is made takes the next slot.
  induction supply generalizing place other with
  | nil next => simp at here
  | @registered next name first names refs states found rest ih =>
      have known := present _ _ found
      cases place with
      | zero =>
          obtain rfl : first = ref := by simpa using here
          omega
      | succ place =>
          cases other with
          | zero =>
              obtain rfl : first = twin := by simpa using there
              omega
          | succ other => exact ih room place other here there (by omega)
  | @made next name setup state names refs states unregistered configured fits rest ih =>
      cases place with
      | zero =>
          cases other with
          | zero => exact absurd rfl different
          | succ other =>
              obtain rfl : (⟨next, name⟩ : TierRef) = ref := by simpa using here
              rcases supply_behind rest present twin (List.mem_of_getElem? there) with old | new
              · dsimp only
                omega
              · dsimp only
                omega
      | succ place =>
          cases other with
          | zero =>
              obtain rfl : (⟨next, name⟩ : TierRef) = twin := by simpa using there
              rcases supply_behind rest present ref (List.mem_of_getElem? here) with old | new
              · omega
              · dsimp only
                omega
          | succ other => exact ih (by omega) place other here there (by omega)

theorem materialise_supply {name : String} {world after : World} {built : Operation TierRef}
    (made : registry.materialise name signature world = .ok (built, after)) :
    ∃ setup states, registry.operations.find? name = some setup ∧ after = world.addAll states ∧
      Supply registry name signature world.slots.length setup.tiers built.tiers states ∧ built.name = name ∧
      built.keyParams = setup.key ∧ built.shape = setup.shape := by
  rw [materialise] at made
  cases configured : registry.operations.find? name with
  | none => simp [configured] at made
  | some setup =>
      simp only [configured, bind, Except.bind] at made
      cases supplied : registry.tiersFor name signature setup.tiers world with
      | error error => simp [supplied] at made
      | ok tiers =>
          simp only [supplied] at made
          cases drafted : (draftOf name setup tiers.1).build TierRef.name signature.shape with
          | error error =>
              rw [draftOf] at drafted
              simp [drafted] at made
          | ok draft =>
              obtain ⟨_, rfl⟩ := (Draft.build_ok_iff TierRef.name signature.shape _ draft).mp drafted
              rw [draftOf] at drafted
              simp only [drafted, pure, Except.pure, Except.ok.injEq, Prod.mk.injEq] at made
              obtain ⟨rfl, rfl⟩ := made
              obtain ⟨states, supply, grown⟩ := tiers_for_supply setup.tiers world tiers.2 tiers.1 supplied
              exact ⟨setup, states, rfl, grown, supply, rfl, rfl, rfl⟩

end Registry

end CacheTiers
