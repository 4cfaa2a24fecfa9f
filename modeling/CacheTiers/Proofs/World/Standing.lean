import CacheTiers.Proofs.Redis.Entered
import CacheTiers.Proofs.Resolve.InStep
import CacheTiers.Proofs.World.Slots

namespace CacheTiers

-- A tier as it was set up: without its contents, its connections and its planned faults.
def TierState.bare : TierState → TierState
  | .memory kept => .memory kept.clear
  | .scripted planned => .scripted { planned with entries := .empty, getFault := none, putFault := none }
  | .redis tier => .redis tier.unlinked

namespace World

def setup? (world : World) (index : Nat) : Option TierState := (world.state? index).map TierState.bare

def Speaks (world : World) (places : List Nat) (endpoint : Redis.Endpoint) (entry : Redis.LogEntry) : Prop :=
  ∃ place ∈ places, ∃ tier, world.setup? place = some (.redis tier) ∧ tier.endpoint = endpoint ∧ tier.Enters entry

structure Acted (places : List Nat) (before after : World) : Prop where
  setups : after.setup? = before.setup?
  logs : ∀ endpoint, (before.server endpoint).Grown (before.Speaks places endpoint) (after.server endpoint)

variable {places : List Nat} {index : Nat} {world : World}

theorem acted_of_same (after : World) (setups : after.setup? = world.setup?) (servers : after.servers = world.servers) :
    Acted places world after :=
  ⟨setups, fun endpoint => Redis.Server.grown_of_same (by rw [server, server, servers])⟩

theorem acted_refl (world : World) : Acted places world world := acted_of_same world rfl rfl

theorem acted_trans {first second third : World} (before : Acted places first second)
    (after : Acted places second third) : Acted places first third := by
  refine ⟨after.setups.trans before.setups, ?_⟩
  intro endpoint
  have same : second.Speaks places endpoint = first.Speaks places endpoint := by
    funext entry
    rw [Speaks, before.setups, Speaks]
  exact Redis.Server.grown_trans (before.logs endpoint) (same ▸ after.logs endpoint)

-- Every tier that is there stays, as it was set up; there may be more.
def Upholds (before after : World) : Prop :=
  ∀ index setup, before.setup? index = some setup → after.setup? index = some setup

theorem upholds_refl (world : World) : Upholds world world := fun _ _ stands => stands

theorem upholds_trans {first second third : World} (before : Upholds first second) (after : Upholds second third) :
    Upholds first third := fun index setup stands => after index setup (before index setup stands)

theorem acted_upholds {after : World} (acted : Acted places world after) : Upholds world after := by
  intro index setup stands
  rw [acted.setups, stands]

theorem append_upholds (after : World) (grown : ∃ more, after.slots = world.slots ++ more) : Upholds world after := by
  intro index setup stands
  obtain ⟨more, grown⟩ := grown
  obtain ⟨state, read, _⟩ := Option.map_eq_some_iff.mp stands
  have bound := state_bound index state world read
  rw [setup?, state?, grown, List.getElem?_append_left bound]
  exact stands

theorem upholds_length {after : World} (upholds : Upholds world after) : world.slots.length ≤ after.slots.length := by
  have bound (index : Nat) (world : World) : world.setup? index = none ↔ world.slots.length ≤ index := by
    rw [setup?, state?, Option.map_eq_none_iff, Option.map_eq_none_iff, List.getElem?_eq_none_iff]
  apply (bound after.slots.length world).mp
  by_contra present
  obtain ⟨setup, stands⟩ := Option.ne_none_iff_exists'.mp present
  have absent := (bound after.slots.length after).mpr (Nat.le_refl _)
  rw [upholds _ setup stands] at absent
  cases absent

theorem note_acted (entry : Entry) (world : World) : Acted places world (world.note entry) := acted_of_same _ rfl rfl

theorem note_at_acted (index : Nat) (entry : Entry) (world : World) : Acted places world (world.noteAt index entry) := by
  refine acted_of_same _ ?_ (note_at_servers index entry world)
  funext other
  rw [setup?, note_at_state, setup?]

theorem set_state_setup (old state : TierState) (read : world.state? index = some old) (same : state.bare = old.bare) :
    (world.setState index state).setup? = world.setup? := by
  funext other
  rw [setup?, setup?]
  by_cases here : index = other
  · subst here
    rw [set_state_here index old state world read, read, Option.map_some, same, Option.map_some]
  · rw [set_state_elsewhere index other state world here]

theorem set_state_acted (old state : TierState) (read : world.state? index = some old) (same : state.bare = old.bare) :
    Acted places world (world.setState index state) := acted_of_same _ (set_state_setup old state read same) rfl

theorem at_server_acted {A : Type} (call : RedisTier → Redis.Server → A × RedisTier × Redis.Server) (tier : RedisTier)
    (member : index ∈ places) (read : world.state? index = some (.redis tier))
    (unlinked : ∀ server, (call tier server).2.1.unlinked = tier.unlinked)
    (grown : ∀ server : Redis.Server, server.Grown tier.Enters (call tier server).2.2) :
    Acted places world (atServer index call tier world).2 := by
  refine ⟨?_, ?_⟩
  · exact set_state_setup _ _ read (congrArg TierState.redis (unlinked _))
  · intro endpoint
    rw [atServer, set_server_server]
    by_cases here : endpoint = tier.endpoint
    · subst here
      rw [if_pos rfl]
      apply Redis.Server.grown_mono _ (grown _)
      intro entry enters
      have setup : world.setup? index = some (.redis tier.unlinked) := by rw [setup?, read]; rfl
      exact ⟨index, member, tier.unlinked, setup, rfl, RedisTier.enters_unlinked enters⟩
    · rw [if_neg here]
      exact Redis.Server.grown_of_same rfl

theorem scripted_get_bare (key : Json) (scripted : Scripted Json Json) :
    (TierState.scripted (Scripted.get key scripted).2).bare = (TierState.scripted scripted).bare := by
  rw [Scripted.get]
  split <;> rfl

theorem scripted_put_bare (key value : Json) (scripted : Scripted Json Json) :
    (TierState.scripted (Scripted.put key value scripted).2).bare = (TierState.scripted scripted).bare := by
  rw [Scripted.put]
  split <;> rfl

theorem memory_insert_bare (key value : Json) (memory : Memory Json Json) :
    (TierState.memory (memory.insert key value)).bare = (TierState.memory memory).bare := by
  rw [Memory.insert]
  split <;> rfl

theorem get_acted (key : Json) (world : World) (member : index ∈ places) : Acted places world (world.get index key).2 := by
  rw [World.get]
  cases read : world.state? index with
  | none => exact acted_refl world
  | some state =>
      cases state with
      | memory memory => exact set_state_acted _ _ read rfl
      | scripted scripted => exact set_state_acted _ _ read (scripted_get_bare key scripted)
      | redis tier =>
          exact at_server_acted (RedisTier.get key) tier member read (RedisTier.command_unlinked _ tier)
            fun server => RedisTier.get_grown tier server key

theorem put_acted (key value : Json) (world : World) (member : index ∈ places) :
    Acted places world (world.put index key value).2 := by
  rw [World.put]
  cases read : world.state? index with
  | none => exact acted_refl world
  | some state =>
      cases state with
      | memory memory => exact set_state_acted _ _ read (memory_insert_bare key value memory)
      | scripted scripted => exact set_state_acted _ _ read (scripted_put_bare key value scripted)
      | redis tier =>
          exact at_server_acted (RedisTier.put key value) tier member read (RedisTier.command_unlinked _ tier)
            fun server => RedisTier.put_grown tier server key value

theorem get_late_acted (key : Json) (world : World) (member : index ∈ places) :
    Acted places world (world.getLate index key).2 := by
  rw [getLate]
  split
  · next tier read =>
      exact at_server_acted (RedisTier.getAsync key) tier member read (RedisTier.command_async_unlinked _ _ tier)
        fun server => RedisTier.get_async_grown tier server key
  · exact get_acted key world member

theorem put_late_acted (key value : Json) (world : World) (member : index ∈ places) :
    Acted places world (world.putLate index key value).2 := by
  rw [putLate]
  split
  · next tier read =>
      exact at_server_acted (RedisTier.putAsync key value) tier member read (RedisTier.command_async_unlinked _ _ tier)
        fun server => RedisTier.put_async_grown tier server key value
  · exact put_acted key value world member

theorem enter_acted (key : Json) (told : Lookup Json) (world : World) :
    Acted places world (world.enter index key told).2 := by
  rw [enter]
  split
  · next memory read =>
      refine set_state_acted _ _ read ?_
      rcases told with error | _ | value
      · rfl
      · rfl
      · exact memory_insert_bare key value memory
  · exact acted_refl world

def Alone (places : List Nat) (start world beside : World) : Prop := world = beside ∧ Acted places start world

section Tiers

variable {start : World}

theorem alone_ends {A : Type} (action : World → A × World) (acts : ∀ world, Acted places world (action world).2)
    (world beside : World) (alone : Alone places start world beside) :
    Alike (Alone places start) Eq (action world) (action beside) := by
  obtain ⟨rfl, acted⟩ := alone
  exact ⟨rfl, rfl, acted_trans acted (acts world)⟩

theorem alone_noted (index : Nat) (entry : Entry) (world beside : World) (alone : Alone places start world beside) :
    Alone places start (world.noteAt index entry) (beside.noteAt index entry) := by
  obtain ⟨rfl, acted⟩ := alone
  exact ⟨rfl, acted_trans acted (note_at_acted index entry world)⟩

theorem compute_alone (ref : TierRef) (key : Json) (world : World) (member : ref.index ∈ places)
    (acted : Acted places start world) :
    (compute ref key world).InStep (Alone places start) (compute ref key world) := by
  have noted := alone_noted ref.index (.called .compute ref.name) world world ⟨rfl, acted⟩
  have gets (world beside : World) (alone : Alone places start world beside) :=
    alone_ends (fun world => world.get ref.index key) (fun world => get_acted key world member) world beside alone
  simp only [compute]
  cases world.state? ref.index with
  | none => exact ⟨rfl, rfl, acted⟩
  | some state =>
      cases state with
      | memory memory =>
          dsimp only
          cases memory.find? key with
          | some value => exact ⟨rfl, noted⟩
          | none => exact ⟨noted, fun told later beside alone =>
              alone_ends _ (enter_acted key told) later beside alone⟩
      | redis tier =>
          apply Tier.get_then_put_in_step _ _ _ _ key _ _ (gets _ _ noted)
          exact fun value later beside alone =>
            alone_ends _ (fun world => put_acted key value world member) later beside alone
      | scripted scripted =>
          dsimp only
          split
          · apply Tier.get_then_put_in_step
            · exact gets _ _ (alone_noted ref.index _ world world ⟨rfl, acted⟩)
            · exact fun value later beside alone =>
                alone_ends _ (fun world => put_acted key value world member) _ _ (alone_noted ref.index _ later beside alone)
          · exact ⟨rfl, noted⟩
          · refine ⟨noted, ?_⟩
            intro told later beside alone
            obtain ⟨rfl, still⟩ := alone
            exact ⟨rfl, rfl, still⟩

theorem tier_alone (ref : TierRef) (member : ref.index ∈ places) :
    (World.tier ref).InStep (Alone places start) (World.tier ref) where
  get := fun key world beside alone =>
    alone_ends _ (fun world => get_acted key world member) _ _ (alone_noted ref.index _ world beside alone)
  put := fun key value world beside alone =>
    alone_ends _ (fun world => put_acted key value world member) _ _ (alone_noted ref.index _ world beside alone)
  compute := by
    intro key world beside alone
    obtain ⟨rfl, acted⟩ := alone
    exact compute_alone ref key world member acted
  getAsync := by
    intro key world beside alone
    obtain ⟨rfl, acted⟩ := alone
    have started := alone_noted ref.index (.started .get ref.name) world world ⟨rfl, acted⟩
    refine Job.after_in_step (world.getWaits ref.index) _ _ ?_ _ _ started
    exact alone_ends _ fun later => acted_trans (get_late_acted key later member) (note_at_acted ref.index _ _)
  putAsync := by
    intro key value world beside alone
    obtain ⟨rfl, acted⟩ := alone
    have started := alone_noted ref.index (.started .put ref.name) world world ⟨rfl, acted⟩
    refine Job.after_in_step (world.putWaits ref.index) _ _ ?_ _ _ started
    exact alone_ends _ fun later => acted_trans (put_late_acted key value later member) (note_at_acted ref.index _ _)

end Tiers

end World

theorem Operation.stack_alone (operation : Operation TierRef) (start : World) :
    Resolve.Stacks (World.Alone operation.places start) (operation.map World.tier).tiers
      (operation.map World.tier).tiers :=
  List.forall₂_same.mpr fun tier member => by
    obtain ⟨ref, among, rfl⟩ := List.mem_map.mp member
    exact World.tier_alone ref (List.mem_map_of_mem among)

end CacheTiers
