import CacheTiers.Proofs.Redis.Keys
import CacheTiers.Proofs.Redis.Private
import CacheTiers.Proofs.Resolve.InStep
import CacheTiers.Proofs.World.Cells

namespace CacheTiers

def TierState.MadeFor (operation : String) : TierState → Prop
  | .memory _ => True
  | .redis tier => ∃ before, tier.keyPrefix = before ++ ":" ++ operation
  | .scripted _ => False

namespace World

def OneToOne (links : List (Nat × Nat)) : Prop := ∀ link ∈ links, ∀ other ∈ links, link.1 = other.1 ↔ link.2 = other.2

structure Linked (operation : String) (links : List (Nat × Nat)) (gap : Int) (start first second : World) : Prop where
  paired : ∀ link ∈ links, ∃ state, first.state? link.1 = some state ∧ second.state? link.2 = some state ∧
    state.MadeFor operation
  kept : ∀ index, (∀ link ∈ links, index ≠ link.1) → first.state? index = start.state? index
  shared : ∀ endpoint, (first.server endpoint).Agree (OperationKey operation) (second.server endpoint)
  untouched : ∀ endpoint, (start.server endpoint).Agree (fun text => ¬ OperationKey operation text) (first.server endpoint)
  asked : (first.asked : Int) = second.asked + gap

section Links

variable {operation : String} {links : List (Nat × Nat)} {gap : Int} {start first second : World}

theorem note_at_linked (index other : Nat) (entry otherwise : Entry)
    (linked : Linked operation links gap start first second)
    (idle : asksOrigin entry = false) (also : asksOrigin otherwise = false) :
    Linked operation links gap start (first.noteAt index entry) (second.noteAt other otherwise) := by
  refine ⟨?_, ?_, ?_, ?_, ?_⟩
  · intro link member
    rw [note_at_state, note_at_state]
    exact linked.paired link member
  · intro place apart
    rw [note_at_state]
    exact linked.kept place apart
  · intro endpoint
    rw [note_at_server, note_at_server]
    exact linked.shared endpoint
  · intro endpoint
    rw [note_at_server]
    exact linked.untouched endpoint
  · rw [asked_note_at index entry first idle, asked_note_at other otherwise second also]
    exact linked.asked

theorem note_linked (entry : Entry) (linked : Linked operation links gap start first second) :
    Linked operation links gap start (first.note entry) (second.note entry) := by
  refine ⟨linked.paired, linked.kept, linked.shared, linked.untouched, ?_⟩
  cases counts : asksOrigin entry with
  | true =>
      rw [asked_note_origin entry first counts, asked_note_origin entry second counts]
      have := linked.asked
      omega
  | false =>
      rw [asked_note entry first counts, asked_note entry second counts]
      exact linked.asked

theorem set_state_linked (apart : OneToOne links) (link : Nat × Nat) (member : link ∈ links) (state : TierState)
    (made : state.MadeFor operation) (linked : Linked operation links gap start first second) :
    Linked operation links gap start (first.setState link.1 state) (second.setState link.2 state) := by
  refine ⟨?_, ?_, linked.shared, linked.untouched, linked.asked⟩
  · intro other among
    obtain ⟨old, here, there, fits⟩ := linked.paired other among
    by_cases same : link.1 = other.1
    · have also := (apart link member other among).mp same
      rw [same, also]
      exact ⟨state, set_state_here _ old state first here, set_state_here _ old state second there, made⟩
    · have different := fun equal => same ((apart link member other among).mpr equal)
      rw [set_state_elsewhere _ _ state first same, set_state_elsewhere _ _ state second different]
      exact ⟨old, here, there, fits⟩
  · intro index outside
    rw [set_state_elsewhere _ _ state first (outside link member).symm]
    exact linked.kept index outside

theorem set_server_linked (endpoint : Redis.Endpoint) (server other : Redis.Server)
    (agree : server.Agree (OperationKey operation) other)
    (touched : (first.server endpoint).Agree (fun text => ¬ OperationKey operation text) server)
    (linked : Linked operation links gap start first second) :
    Linked operation links gap start (first.setServer endpoint server) (second.setServer endpoint other) := by
  refine ⟨linked.paired, linked.kept, ?_, ?_, linked.asked⟩
  · intro place
    by_cases same : place = endpoint
    · rw [set_server_server, set_server_server, if_pos same, if_pos same]
      exact agree
    · rw [set_server_server, set_server_server, if_neg same, if_neg same]
      exact linked.shared place
  · intro place
    by_cases same : place = endpoint
    · rw [set_server_server, if_pos same]
      exact Redis.Server.agree_trans (linked.untouched place) (same ▸ touched)
    · rw [set_server_server, if_neg same]
      exact linked.untouched place

theorem at_server_alike {A : Type} (apart : OneToOne links) (link : Nat × Nat) (member : link ∈ links)
    (tier : RedisTier)
    (call : RedisTier → Redis.Server → A × RedisTier × Redis.Server) (made : (TierState.redis tier).MadeFor operation)
    (keeps : ∀ server other, server.Agree (OperationKey operation) other →
      RedisTier.Private (OperationKey operation) tier server (call tier server) (call tier other))
    (linked : Linked operation links gap start first second) :
    Alike (Linked operation links gap start) Eq (atServer link.1 call tier first) (atServer link.2 call tier second) := by
  have ended := keeps _ _ (linked.shared tier.endpoint)
  simp only [atServer]
  rcases here : call tier (first.server tier.endpoint) with ⟨answer, later, server⟩
  rcases there : call tier (second.server tier.endpoint) with ⟨given, otherLater, other⟩
  rw [here, there] at ended
  obtain ⟨rfl, rfl, keyPrefix, agree, touched⟩ := ended
  have still : (TierState.redis later).MadeFor operation := by
    obtain ⟨before, written⟩ := made
    exact ⟨before, keyPrefix.trans written⟩
  exact ⟨rfl, set_server_linked tier.endpoint server other agree touched (set_state_linked apart link member _ still linked)⟩

theorem made_for_key (tier : RedisTier) (key : Json) (made : (TierState.redis tier).MadeFor operation) :
    OperationKey operation (RedisTier.serverKey tier.keyPrefix key) := by
  obtain ⟨before, written⟩ := made
  exact ⟨before, key, by rw [written]⟩

theorem get_alike (apart : OneToOne links) (link : Nat × Nat) (member : link ∈ links) (key : Json)
    (linked : Linked operation links gap start first second) :
    Alike (Linked operation links gap start) Eq (first.get link.1 key) (second.get link.2 key) := by
  obtain ⟨state, here, there, made⟩ := linked.paired link member
  rw [World.get, World.get, here, there]
  cases state with
  | scripted scripted => exact made.elim
  | memory memory => exact ⟨rfl, set_state_linked apart link member _ made linked⟩
  | redis tier =>
      exact at_server_alike apart link member tier (RedisTier.get key) made
        (fun server other agree => RedisTier.get_private key tier server other agree (made_for_key tier key made)) linked

theorem put_alike (apart : OneToOne links) (link : Nat × Nat) (member : link ∈ links) (key value : Json)
    (linked : Linked operation links gap start first second) :
    Alike (Linked operation links gap start) Eq (first.put link.1 key value) (second.put link.2 key value) := by
  obtain ⟨state, here, there, made⟩ := linked.paired link member
  rw [World.put, World.put, here, there]
  cases state with
  | scripted scripted => exact made.elim
  | memory memory => exact ⟨rfl, set_state_linked apart link member _ trivial linked⟩
  | redis tier =>
      exact at_server_alike apart link member tier (RedisTier.put key value) made
        (fun server other agree => RedisTier.put_private key value tier server other agree (made_for_key tier key made)) linked

theorem get_late_alike (apart : OneToOne links) (link : Nat × Nat) (member : link ∈ links) (key : Json)
    (linked : Linked operation links gap start first second) :
    Alike (Linked operation links gap start) Eq (first.getLate link.1 key) (second.getLate link.2 key) := by
  obtain ⟨state, here, there, made⟩ := linked.paired link member
  rw [getLate, getLate, here, there]
  cases state with
  | scripted scripted => exact made.elim
  | memory memory => exact get_alike apart link member key linked
  | redis tier =>
      exact at_server_alike apart link member tier (RedisTier.getAsync key) made
        (fun server other agree => RedisTier.get_async_private key tier server other agree (made_for_key tier key made)) linked

theorem put_late_alike (apart : OneToOne links) (link : Nat × Nat) (member : link ∈ links) (key value : Json)
    (linked : Linked operation links gap start first second) :
    Alike (Linked operation links gap start) Eq (first.putLate link.1 key value) (second.putLate link.2 key value) := by
  obtain ⟨state, here, there, made⟩ := linked.paired link member
  rw [putLate, putLate, here, there]
  cases state with
  | scripted scripted => exact made.elim
  | memory memory => exact put_alike apart link member key value linked
  | redis tier =>
      exact at_server_alike apart link member tier (RedisTier.putAsync key value) made
        (fun server other agree => RedisTier.put_async_private key value tier server other agree (made_for_key tier key made))
        linked

theorem enter_alike (apart : OneToOne links) (link : Nat × Nat) (member : link ∈ links) (key : Json)
    (told : Lookup Json)
    (linked : Linked operation links gap start first second) :
    Alike (Linked operation links gap start) Eq (first.enter link.1 key told) (second.enter link.2 key told) := by
  obtain ⟨state, here, there, made⟩ := linked.paired link member
  rw [enter, enter, here, there]
  cases state with
  | scripted scripted => exact made.elim
  | memory memory => exact ⟨rfl, set_state_linked apart link member _ trivial linked⟩
  | redis tier => exact ⟨rfl, linked⟩

theorem get_waits_linked (link : Nat × Nat) (member : link ∈ links)
    (linked : Linked operation links gap start first second) :
    first.getWaits link.1 = second.getWaits link.2 := by
  obtain ⟨state, here, there, made⟩ := linked.paired link member
  rw [getWaits, getWaits, here, there]
  cases state with
  | scripted scripted => exact made.elim
  | memory memory => rfl
  | redis tier => exact (linked.shared tier.endpoint).delay

theorem put_waits_linked (link : Nat × Nat) (member : link ∈ links)
    (linked : Linked operation links gap start first second) :
    first.putWaits link.1 = second.putWaits link.2 := by
  obtain ⟨state, here, there, made⟩ := linked.paired link member
  rw [putWaits, putWaits, here, there]
  cases state with
  | scripted scripted => exact made.elim
  | memory memory => rfl
  | redis tier => exact (linked.shared tier.endpoint).delay

theorem compute_in_step (apart : OneToOne links) (ref other : TierRef) (member : (ref.index, other.index) ∈ links)
    (key : Json)
    (linked : Linked operation links gap start first second) :
    (compute ref key first).InStep (Linked operation links gap start) (compute other key second) := by
  obtain ⟨state, here, there, made⟩ := linked.paired _ member
  have noted := note_at_linked ref.index other.index (.called .compute ref.name) (.called .compute other.name) linked rfl rfl
  simp only [compute, here, there]
  cases state with
  | scripted scripted => exact made.elim
  | memory memory =>
      dsimp only
      cases memory.find? key with
      | some value => exact ⟨rfl, noted⟩
      | none => exact ⟨noted, fun told later beside still => enter_alike apart _ member key told still⟩
  | redis tier =>
      exact Tier.get_then_put_in_step _ _ _ _ key _ _ (get_alike apart _ member key noted)
        (fun value world beside still => put_alike apart _ member key value still)

theorem tier_in_step (apart : OneToOne links) (ref other : TierRef) (member : (ref.index, other.index) ∈ links) :
    (World.tier ref).InStep (Linked operation links gap start) (World.tier other) where
  get := fun key world beside linked => get_alike apart _ member key
    (note_at_linked ref.index other.index (.called .get ref.name) (.called .get other.name) linked rfl rfl)
  put := fun key value world beside linked => put_alike apart _ member key value
    (note_at_linked ref.index other.index (.called .put ref.name) (.called .put other.name) linked rfl rfl)
  compute := fun key world beside linked => compute_in_step apart ref other member key linked
  getAsync := by
    intro key world beside linked
    have waits := get_waits_linked _ member linked
    have started := note_at_linked ref.index other.index (.started .get ref.name) (.started .get other.name) linked rfl rfl
    simp only [tier, waits]
    refine Job.after_in_step _ _ _ ?_ _ _ started
    intro world beside linked
    obtain ⟨answer, after, besideAfter, here, there, still⟩ := alike_ends (get_late_alike apart _ member key linked)
    simp only [here, there]
    exact ⟨rfl, note_at_linked ref.index other.index (.ended .get ref.name) (.ended .get other.name) still rfl rfl⟩
  putAsync := by
    intro key value world beside linked
    have waits := put_waits_linked _ member linked
    have started := note_at_linked ref.index other.index (.started .put ref.name) (.started .put other.name) linked rfl rfl
    simp only [tier, waits]
    refine Job.after_in_step _ _ _ ?_ _ _ started
    intro world beside linked
    obtain ⟨answer, after, besideAfter, here, there, still⟩ := alike_ends (put_late_alike apart _ member key value linked)
    simp only [here, there]
    exact ⟨rfl, note_at_linked ref.index other.index (.ended .put ref.name) (.ended .put other.name) still rfl rfl⟩

end Links

end World

end CacheTiers
