import CacheTiers.Proofs.Manager.Await
import CacheTiers.Proofs.Manager.Plan

namespace CacheTiers

namespace Manager

def Owned (owner : Nat → String) (manager : Manager) : Prop :=
  ∀ name signature operation, manager.registry.built.find? (name, signature) = some operation →
    Config.SoundName name ∧ ∀ ref ∈ operation.tiers, owner ref.index = name ∧
      ∃ state, manager.context.world.state? ref.index = some state ∧ state.MadeFor name

def ownerFrom (bound : Nat) (name : String) (owner : Nat → String) (index : Nat) : String :=
  if index < bound then owner index else name

def linksFrom (start other count : Nat) : List (Nat × Nat) :=
  (List.range count).map fun place => (start + place, other + place)

structure BuiltAlike (links : List (Nat × Nat)) (first second : Operation TierRef) : Prop where
  name : first.name = second.name
  keyParams : first.keyParams = second.keyParams
  runtime : first.backfillRuntime = second.backfillRuntime
  tiers : List.Forall₂ (fun ref other => (ref.index, other.index) ∈ links) first.tiers second.tiers

structure Follows (config : Config) (name : String) (owner : Nat → String) (links : List (Nat × Nat))
    (first second : Manager) : Prop where
  apart : World.OneToOne links
  configured : first.Configured config
  configuredBeside : second.Configured config
  owned : first.Owned owner
  owners : ∀ link ∈ links, owner link.1 = name
  linked : ∃ gap, World.Linked name links gap first.context.world first.context.world second.context.world
  built : ∀ signature, Option.Rel (BuiltAlike links) (first.registry.built.find? (name, signature))
    (second.registry.built.find? (name, signature))

theorem mem_links_from (start other count : Nat) (link : Nat × Nat) :
    link ∈ linksFrom start other count ↔ ∃ place < count, link = (start + place, other + place) := by
  simp [linksFrom, eq_comm]

theorem refs_from_linked (start other : Nat) (states : List TierState) :
    List.Forall₂ (fun ref twin => (ref.index, twin.index) ∈ linksFrom start other states.length)
      (World.refsFrom start states) (World.refsFrom other states) := by
  induction states generalizing start other with
  | nil => exact .nil
  | cons state rest ih =>
      refine .cons ?_ ((ih (start + 1) (other + 1)).imp ?_)
      · exact (mem_links_from start other _ _).mpr ⟨0, Nat.succ_pos _, rfl⟩
      · intro ref twin member
        obtain ⟨place, bound, same⟩ := (mem_links_from _ _ _ _).mp member
        refine (mem_links_from start other _ _).mpr ⟨place + 1, Nat.succ_lt_succ bound, ?_⟩
        rw [same, Nat.add_assoc, Nat.add_assoc, Nat.add_comm 1 place]

theorem grown_find (name : String) (signature : Signature) (planned : Operation TierRef × List TierState)
    (manager : Manager)
    (asked : String × Signature) :
    (manager.grown name signature planned).registry.built.find? asked =
      if asked = (name, signature) then some (manager.placed planned) else manager.registry.built.find? asked :=
  Table.find?_insert manager.registry.built (name, signature) asked (manager.placed planned)

theorem owned_grown (config : Config) (sound : config.WellFormed) (name : String) (signature : Signature)
    (planned : Operation TierRef × List TierState) (owner : Nat → String) (manager : Manager)
    (found : config.plan name signature = .ok planned) (owned : manager.Owned owner) :
    (manager.grown name signature planned).Owned (ownerFrom manager.context.world.slots.length name owner) := by
  intro other otherSignature operation inserted
  rw [grown_find] at inserted
  by_cases same : (other, otherSignature) = (name, signature)
  · rw [if_pos same] at inserted
    cases same
    obtain rfl := Option.some.inj inserted
    refine ⟨config.plan_named sound name signature planned.1 planned.2 found, ?_⟩
    intro ref member
    obtain ⟨state, among, read⟩ := World.add_all_new planned.2 manager.context.world ref member
    have behind := (World.refs_from_bounds _ _ ref member).1
    exact ⟨if_neg (by omega), state, read, config.plan_made name signature planned.1 planned.2 found state among⟩
  · rw [if_neg same] at inserted
    obtain ⟨named, tiers⟩ := owned other otherSignature operation inserted
    refine ⟨named, ?_⟩
    intro ref member
    obtain ⟨owns, state, read, made⟩ := tiers ref member
    have bound := World.state_bound ref.index state manager.context.world read
    exact ⟨(if_pos bound).trans owns, state, (World.add_all_old planned.2 _ _ bound).trans read, made⟩

section Growing

variable {config : Config} {name : String} {owner : Nat → String} {links : List (Nat × Nat)} {gap : Int}
  {first second : World}

theorem linked_bounds (linked : World.Linked name links gap first first second) (link : Nat × Nat)
    (member : link ∈ links) :
    link.1 < first.slots.length ∧ link.2 < second.slots.length := by
  obtain ⟨state, here, there, _⟩ := linked.paired link member
  exact ⟨World.state_bound _ _ _ here, World.state_bound _ _ _ there⟩

theorem linked_restart {start : World} (linked : World.Linked name links gap start first second) :
    World.Linked name links gap first first second :=
  ⟨linked.paired, fun _ _ => rfl, linked.shared,
    fun endpoint => Redis.Server.agree_refl _ (linked.shared endpoint).answering.1, linked.asked⟩

theorem linked_beside (states : List TierState) (linked : World.Linked name links gap first first second) :
    World.Linked name links gap (first.addAll states) (first.addAll states) second := by
  refine ⟨?_, fun _ _ => rfl, linked.shared, linked.untouched, linked.asked⟩
  intro link member
  obtain ⟨state, here, there, made⟩ := linked.paired link member
  have bound := (linked_bounds linked link member).1
  exact ⟨state, (World.add_all_old states first link.1 bound).trans here, there, made⟩

theorem linked_grown (states : List TierState) (made : ∀ state ∈ states, state.MadeFor name)
    (linked : World.Linked name links gap first first second) :
    World.Linked name (links ++ linksFrom first.slots.length second.slots.length states.length) gap
      (first.addAll states) (first.addAll states) (second.addAll states) := by
  refine ⟨?_, fun _ _ => rfl, linked.shared, linked.untouched, linked.asked⟩
  intro link member
  rcases List.mem_append.mp member with old | new
  · obtain ⟨state, here, there, fits⟩ := linked.paired link old
    obtain ⟨bound, also⟩ := linked_bounds linked link old
    exact ⟨state, (World.add_all_old states first link.1 bound).trans here,
      (World.add_all_old states second link.2 also).trans there, fits⟩
  · obtain ⟨place, bound, rfl⟩ := (mem_links_from _ _ _ _).mp new
    have read : states[place]? = some states[place] := List.getElem?_eq_getElem bound
    exact ⟨states[place], (World.add_all_at states first place).trans read, (World.add_all_at states second place).trans read,
      made _ (List.getElem_mem bound)⟩

theorem apart_grown (count : Nat) (apart : World.OneToOne links)
    (linked : World.Linked name links gap first first second) :
    World.OneToOne (links ++ linksFrom first.slots.length second.slots.length count) := by
  intro link member other among
  rcases List.mem_append.mp member with old | new
  · obtain ⟨bound, also⟩ := linked_bounds linked link old
    rcases List.mem_append.mp among with oldOther | newOther
    · exact apart link old other oldOther
    · obtain ⟨place, _, rfl⟩ := (mem_links_from _ _ _ _).mp newOther
      constructor <;> intro same <;> omega
  · obtain ⟨place, _, rfl⟩ := (mem_links_from _ _ _ _).mp new
    rcases List.mem_append.mp among with oldOther | newOther
    · obtain ⟨bound, also⟩ := linked_bounds linked other oldOther
      constructor <;> intro same <;> omega
    · obtain ⟨next, _, rfl⟩ := (mem_links_from _ _ _ _).mp newOther
      constructor <;> intro same <;> omega

theorem built_alike_more (more : List (Nat × Nat)) (operation other : Operation TierRef)
    (alike : BuiltAlike links operation other) :
    BuiltAlike (links ++ more) operation other :=
  ⟨alike.name, alike.keyParams, alike.runtime, alike.tiers.imp fun _ _ member => List.mem_append_left more member⟩

end Growing

section Looking

variable {config : Config} {name : String} {owner : Nat → String} {links : List (Nat × Nat)} {first second : Manager}

def FoundAlike (links : List (Nat × Nat)) : Except CacheError (Operation TierRef) → Except CacheError
    (Operation TierRef) → Prop
  | .error error, .error other => error = other
  | .ok operation, .ok other => BuiltAlike links operation other
  | _, _ => False

theorem found_alike_ends {found given : Except CacheError (Operation TierRef)} (alike : FoundAlike links found given) :
    (∃ error, found = .error error ∧ given = .error error) ∨
      ∃ operation other, found = .ok operation ∧ given = .ok other ∧ BuiltAlike links operation other := by
  cases found with
  | error error =>
      cases given with
      | error other => exact .inl ⟨other, congrArg Except.error alike, rfl⟩
      | ok other => exact alike.elim
  | ok operation =>
      cases given with
      | error error => exact alike.elim
      | ok other => exact .inr ⟨operation, other, rfl, rfl, alike⟩

theorem follows_grown (sound : config.WellFormed) (signature : Signature) (planned : Operation TierRef × List TierState)
    (found : config.plan name signature = .ok planned) (follows : Follows config name owner links first second) :
    let more := linksFrom first.context.world.slots.length second.context.world.slots.length planned.2.length
    Follows config name (ownerFrom first.context.world.slots.length name owner) (links ++ more)
        (first.grown name signature planned) (second.grown name signature planned) ∧
      BuiltAlike (links ++ more) (first.placed planned) (second.placed planned) := by
  intro more
  obtain ⟨gap, linked⟩ := follows.linked
  have made := config.plan_made name signature planned.1 planned.2 found
  have alike : BuiltAlike (links ++ more) (first.placed planned) (second.placed planned) :=
    ⟨rfl, rfl, rfl, (refs_from_linked _ _ planned.2).imp fun _ _ member => List.mem_append_right links member⟩
  refine ⟨⟨apart_grown _ follows.apart linked, grown_configured config name signature planned first follows.configured,
    grown_configured config name signature planned second follows.configuredBeside,
    owned_grown config sound name signature planned owner first found follows.owned, ?_, ⟨gap, linked_grown _ made linked⟩, ?_⟩,
    alike⟩
  · intro link member
    rcases List.mem_append.mp member with old | new
    · exact (if_pos (linked_bounds linked link old).1).trans (follows.owners link old)
    · obtain ⟨place, _, rfl⟩ := (mem_links_from _ _ _ _).mp new
      exact if_neg (by omega)
  · intro other
    by_cases same : (name, other) = (name, signature)
    · rw [grown_find, grown_find, if_pos same, if_pos same]
      exact .some alike
    · have before := follows.built other
      rw [grown_find, grown_find, if_neg same, if_neg same]
      generalize first.registry.built.find? (name, other) = here at before ⊢
      generalize second.registry.built.find? (name, other) = there at before ⊢
      cases before with
      | none => exact .none
      | some alike => exact .some (built_alike_more more _ _ alike)

theorem operation_follows (sound : config.WellFormed) (signature : Signature)
    (follows : Follows config name owner links first second) :
    ∃ owner' links',
      Follows config name owner' links' (first.operation name signature).2 (second.operation name signature).2 ∧
        FoundAlike links' (first.operation name signature).1 (second.operation name signature).1 := by
  have both := follows.built signature
  cases here : first.registry.built.find? (name, signature) with
  | some operation =>
      rw [here] at both
      cases there : second.registry.built.find? (name, signature) with
      | none =>
          rw [there] at both
          cases both
      | some other =>
          rw [there] at both
          cases both with
          | some alike =>
              rw [operation_built _ _ _ first here, operation_built _ _ _ second there]
              exact ⟨owner, links, follows, alike⟩
  | none =>
      rw [here] at both
      cases there : second.registry.built.find? (name, signature) with
      | some other =>
          rw [there] at both
          cases both
      | none =>
          rw [operation_planned config name signature first follows.configured here,
            operation_planned config name signature second follows.configuredBeside there]
          cases found : config.plan name signature with
          | error error => exact ⟨owner, links, follows, rfl⟩
          | ok planned =>
              obtain ⟨after, alike⟩ := follows_grown sound signature planned found follows
              exact ⟨_, _, after, alike⟩

theorem operation_at_follows (sound : config.WellFormed) (site : CallSite) (shape : Shape)
    (follows : Follows config site.operation owner links first second) :
    ∃ owner' links',
      Follows config site.operation owner' links' (first.operationAt site shape).2 (second.operationAt site shape).2 ∧
        FoundAlike links' (first.operationAt site shape).1 (second.operationAt site shape).1 := by
  obtain ⟨owner', links', after, alike⟩ := operation_follows sound (site.signature shape) follows
  refine ⟨owner', links', ?_⟩
  simp only [operationAt]
  rcases here : first.operation site.operation (site.signature shape) with ⟨found, later⟩
  rcases there : second.operation site.operation (site.signature shape) with ⟨given, beside⟩
  rw [here, there] at after alike
  rcases found_alike_ends alike with ⟨error, rfl, rfl⟩ | ⟨operation, other, rfl, rfl, same⟩
  · exact ⟨after, rfl⟩
  · refine ⟨after, ?_⟩
    simp only [checkCallSite, same.keyParams, same.name]
    by_cases passes : other.keyParams = site.params
    · simp only [if_pos passes]
      exact same
    · simp only [if_neg passes]
      exact rfl

theorem operation_at_manager (site : CallSite) (shape : Shape) (manager : Manager) :
    (manager.operationAt site shape).2 = (manager.operation site.operation (site.signature shape)).2 := by
  simp only [operationAt]
  rcases manager.operation site.operation (site.signature shape) with ⟨found, later⟩
  cases found with
  | error error => rfl
  | ok operation => rfl

theorem operation_at_found (site : CallSite) (shape : Shape) (manager : Manager) (found : Operation TierRef)
    (passes : (manager.operationAt site shape).1 = .ok found) :
    (manager.operation site.operation (site.signature shape)).1 = .ok found := by
  simp only [operationAt] at passes
  rcases looked : manager.operation site.operation (site.signature shape) with ⟨answer, later⟩
  rw [looked] at passes
  cases answer with
  | error error => cases passes
  | ok operation =>
      cases checked : checkCallSite operation site.params with
      | error error => simp [checked] at passes
      | ok done => simpa [checked] using passes

theorem operation_at_asked (site : CallSite) (shape : Shape) (manager : Manager)
    (configured : manager.Configured config) :
    World.asked (manager.operationAt site shape).2.context.world = World.asked manager.context.world := by
  rw [operation_at_manager]
  cases built : manager.registry.built.find? (site.operation, site.signature shape) with
  | some operation => rw [operation_built _ _ _ manager built]
  | none =>
      rw [operation_planned config _ _ manager configured built]
      cases config.plan site.operation (site.signature shape) with
      | error error => rfl
      | ok planned => rfl

-- The operation is another one: the first manager may build it, the second one never hears of it.
theorem follows_beside (sound : config.WellFormed) (other : String) (signature : Signature)
    (planned : Operation TierRef × List TierState) (found : config.plan other signature = .ok planned)
    (different : other ≠ name) (follows : Follows config name owner links first second) :
    Follows config name (ownerFrom first.context.world.slots.length other owner) links (first.grown other signature planned)
      second := by
  obtain ⟨gap, linked⟩ := follows.linked
  refine ⟨follows.apart, grown_configured config other signature planned first follows.configured, follows.configuredBeside,
    owned_grown config sound other signature planned owner first found follows.owned, ?_,
    ⟨gap, linked_beside planned.2 linked⟩, ?_⟩
  · intro link member
    exact (if_pos (linked_bounds linked link member).1).trans (follows.owners link member)
  · intro asked
    have apart : (name, asked) ≠ (other, signature) := fun same => different (Prod.mk.inj same).1.symm
    rw [grown_find, if_neg apart]
    exact follows.built asked

theorem operation_at_beside (sound : config.WellFormed) (site : CallSite) (shape : Shape)
    (different : site.operation ≠ name)
    (follows : Follows config name owner links first second) :
    ∃ owner', Follows config name owner' links (first.operationAt site shape).2 second ∧
      ∀ operation, (first.operationAt site shape).1 = .ok operation →
        (first.operationAt site shape).2.registry.built.find? (site.operation, site.signature shape) = some operation := by
  have found := operation_at_found site shape first
  rw [operation_at_manager]
  cases built : first.registry.built.find? (site.operation, site.signature shape) with
  | some operation =>
      rw [operation_built _ _ _ first built] at found ⊢
      refine ⟨owner, follows, ?_⟩
      intro other passes
      rw [built]
      exact congrArg some (Except.ok.inj (found other passes))
  | none =>
      rw [operation_planned config _ _ first follows.configured built] at found ⊢
      cases made : config.plan site.operation (site.signature shape) with
      | error error =>
          rw [made] at found
          refine ⟨owner, follows, ?_⟩
          intro other passes
          cases found other passes
      | ok planned =>
          rw [made] at found
          refine ⟨_, follows_beside sound site.operation _ planned made different follows, ?_⟩
          intro other passes
          rw [grown_find, if_pos rfl]
          exact congrArg some (Except.ok.inj (found other passes))

end Looking

section Resolving

variable {config : Config} {name : String} {owner : Nat → String} {links : List (Nat × Nat)} {gap : Int}
  {first second : Manager}

theorem owned_after (operation : String) (manager : Manager) (later : Context World) (beside : World)
    (owned : manager.Owned owner) (owners : ∀ link ∈ links, owner link.1 = operation)
    (linked : World.Linked operation links gap manager.context.world later.world beside) :
    Owned owner ⟨manager.registry, later⟩ := by
  intro other signature built found
  obtain ⟨named, tiers⟩ := owned other signature built found
  refine ⟨named, ?_⟩
  intro ref member
  obtain ⟨owns, state, read, made⟩ := tiers ref member
  refine ⟨owns, ?_⟩
  by_cases among : ∃ link ∈ links, ref.index = link.1
  · obtain ⟨link, member, same⟩ := among
    obtain ⟨state, here, _, fits⟩ := linked.paired link member
    have mine : operation = other := by rw [← owners link member, ← same, owns]
    exact ⟨state, same ▸ here, mine ▸ fits⟩
  · have kept := linked.kept ref.index fun link member same => among ⟨link, member, same⟩
    exact ⟨state, kept.trans read, made⟩

theorem follows_resolved (later beside : Context World) (follows : Follows config name owner links first second)
    (linked : World.Linked name links gap first.context.world later.world beside.world) :
    Follows config name owner links ⟨first.registry, later⟩ ⟨second.registry, beside⟩ :=
  ⟨follows.apart, follows.configured, follows.configuredBeside,
    owned_after name first later beside.world follows.owned follows.owners linked, follows.owners,
    ⟨gap, linked_restart linked⟩, follows.built⟩

theorem follows_disturbed (sound : Config.SoundName name) (other : String) (named : Config.SoundName other)
    (different : other ≠ name) (theirs : List (Nat × Nat)) (owners : ∀ link ∈ theirs, owner link.1 = other)
    (later : Context World) (beside : World) (follows : Follows config name owner links first second)
    (linked : World.Linked other theirs gap first.context.world later.world beside) :
    Follows config name owner links ⟨first.registry, later⟩ second := by
  obtain ⟨before, mine⟩ := follows.linked
  refine ⟨follows.apart, follows.configured, follows.configuredBeside,
    owned_after other first later beside follows.owned owners linked, follows.owners,
    ⟨(World.asked later.world : Int) - World.asked second.context.world, ?_⟩, follows.built⟩
  have shared (endpoint : Redis.Endpoint) :
      (later.world.server endpoint).Agree (OperationKey name) (second.context.world.server endpoint) := by
    have untouched := Redis.Server.agree_mono (linked.untouched endpoint) fun text mine theirs =>
      different (operation_key_unique other name text named sound theirs mine)
    exact Redis.Server.agree_trans (Redis.Server.agree_symm untouched) (mine.shared endpoint)
  have counted : (World.asked later.world : Int) =
      World.asked second.context.world + ((World.asked later.world : Int) - World.asked second.context.world) := by omega
  refine ⟨?_, fun _ _ => rfl, shared, fun endpoint => Redis.Server.agree_refl _ (shared endpoint).answering.1, counted⟩
  intro link member
  obtain ⟨state, here, there, made⟩ := mine.paired link member
  have kept := linked.kept link.1 fun other among same =>
    different (by rw [← owners other among, ← same, follows.owners link member])
  exact ⟨state, kept.trans here, there, made⟩

theorem follows_idle (later : Context World) (follows : Follows config name owner links first second)
    (idle : ∃ journal, later.world = { first.context.world with journal }) :
    Follows config name owner links ⟨first.registry, later⟩ second := by
  obtain ⟨journal, same⟩ := idle
  obtain ⟨gap, mine⟩ := follows.linked
  refine ⟨follows.apart, follows.configured, follows.configuredBeside, ?_, follows.owners,
    ⟨(World.asked later.world : Int) - World.asked second.context.world, ?_⟩, follows.built⟩
  · intro other signature operation built
    dsimp only
    rw [same]
    exact follows.owned other signature operation built
  · have counted : (World.asked later.world : Int) =
        World.asked second.context.world + ((World.asked later.world : Int) - World.asked second.context.world) := by omega
    refine ⟨?_, fun _ _ => rfl, ?_, ?_, counted⟩
    · dsimp only
      rw [same]
      exact mine.paired
    · dsimp only
      rw [same]
      exact mine.shared
    · dsimp only
      rw [same]
      exact mine.untouched

end Resolving

end Manager

end CacheTiers
