import CacheTiers.Proofs.Config.WellFormed
import CacheTiers.Proofs.Json.Typed
import CacheTiers.Proofs.Redis.Keys
import CacheTiers.Proofs.Redis.Served
import CacheTiers.Proofs.World.Slots

namespace CacheTiers

def ValueType.Holds (type : ValueType) (value : Json) : Prop :=
  type.admits value = true ∧ value.depth ≤ Json.maxDepth

namespace World

def redisAt? (world : World) (index : Nat) : Option RedisTier :=
  match world.state? index with
  | some (.redis tier) => some tier.unlinked
  | _ => none

-- The world holds exactly the latest of these writes under the keys of the tier, newest first, and its redis tiers are
-- the given ones.
structure Keeps (tiers : Nat → Option RedisTier) (tier : RedisTier) (writes : List (Json × Json)) (world : World) :
    Prop where
  tiers : world.redisAt? = tiers
  serves : ∃ stored, (world.server tier.endpoint).Serves stored ∧
    ∀ key, stored.find? (RedisTier.serverKey tier.keyPrefix key) = (lookup key writes).map serialize
  typed : ∀ write ∈ writes, tier.valueType.Holds write.2

theorem redis_at_some (index : Nat) (tier : RedisTier) (world : World) (here : world.redisAt? index = some tier) :
    ∃ now, world.state? index = some (.redis now) ∧ now.unlinked = tier := by
  rw [redisAt?] at here
  split at here
  · next now read => exact ⟨now, read, Option.some.inj here⟩
  · cases here

variable {tiers : Nat → Option RedisTier} {tier : RedisTier} {writes : List (Json × Json)} {world : World}

theorem keeps_of_same (after : World) (slots : after.slots = world.slots) (servers : after.servers = world.servers)
    (keeps : Keeps tiers tier writes world) : Keeps tiers tier writes after := by
  refine ⟨?_, ?_, keeps.typed⟩
  · funext index
    rw [redisAt?, state?, slots]
    exact congrFun keeps.tiers index
  · rw [server, servers]
    exact keeps.serves

theorem keeps_note_at (index : Nat) (entry : Entry) (keeps : Keeps tiers tier writes world) :
    Keeps tiers tier writes (world.noteAt index entry) :=
  keeps_of_same _ (note_at_slots index entry world) (note_at_servers index entry world) keeps

theorem decode_latest (key : Json) (named : tier.valueType.WellNamed)
    (typed : ∀ write ∈ writes, tier.valueType.Holds write.2) :
    tier.decode (.ok ((lookup key writes).map serialize)) = .ok (lookup key writes) := by
  cases found : lookup key writes with
  | none => rfl
  | some value =>
      obtain ⟨admitted, within⟩ := typed _ (lookup_mem key value writes found)
      simp only [Option.map_some, RedisTier.decode]
      rw [deserialize_serialize _ value named admitted within]
      rfl

section AtServer

variable {A : Type} (call : RedisTier → Redis.Server → A × RedisTier × Redis.Server)

theorem at_server_redis_at (index : Nat) (now : RedisTier) (read : world.state? index = some (.redis now))
    (unlinked : ∀ server, (call now server).2.1.unlinked = now.unlinked) :
    (atServer index call now world).2.redisAt? = world.redisAt? := by
  let later := (call now (world.server now.endpoint)).2.1
  have moved : (atServer index call now world).2.redisAt? = (world.setState index (.redis later)).redisAt? := rfl
  rw [moved]
  funext place
  rw [redisAt?, redisAt?]
  by_cases here : index = place
  · subst here
    rw [set_state_here index _ _ world read, read]
    exact congrArg some (unlinked _)
  · rw [set_state_elsewhere index place _ world here]

theorem at_server_server (index : Nat) (now : RedisTier) :
    (atServer index call now world).2.server now.endpoint = (call now (world.server now.endpoint)).2.2 := by
  rw [atServer, set_server_server, if_pos rfl]

theorem at_server_own (index : Nat) (now : RedisTier) (answer : A) (later : Table String (List UInt8))
    (more : List (Json × Json)) (read : world.state? index = some (.redis now)) (same : now.unlinked = tier.unlinked)
    (unlinked : ∀ server, (call now server).2.1.unlinked = now.unlinked) (keeps : Keeps tiers tier writes world)
    (served : (call now (world.server now.endpoint)).1 = answer ∧ (call now (world.server now.endpoint)).2.2.Serves later)
    (entries : ∀ key, later.find? (RedisTier.serverKey tier.keyPrefix key) = (lookup key more).map serialize)
    (typed : ∀ write ∈ more, tier.valueType.Holds write.2) :
    (atServer index call now world).1 = answer ∧ Keeps tiers tier more (atServer index call now world).2 := by
  refine ⟨served.1, ?_, ?_, typed⟩
  · rw [at_server_redis_at call index now read unlinked]
    exact keeps.tiers
  · rw [← (RedisTier.unlinked_settings same).1, at_server_server]
    exact ⟨later, served.2, entries⟩

theorem at_server_beside (index : Nat) (now other : RedisTier) (key : Json)
    (read : world.state? index = some (.redis now)) (same : now.unlinked = other.unlinked)
    (apart : other.endpoint = tier.endpoint → other.keyPrefix ≠ tier.keyPrefix)
    (unlinked : ∀ server, (call now server).2.1.unlinked = now.unlinked)
    (alone : ∀ server : Redis.Server, server.Agree (RedisTier.serverKey now.keyPrefix key = ·) server →
      RedisTier.Private (RedisTier.serverKey now.keyPrefix key = ·) now server (call now server) (call now server))
    (keeps : Keeps tiers tier writes world) : Keeps tiers tier writes (atServer index call now world).2 := by
  obtain ⟨endpoints, prefixes, _⟩ := RedisTier.unlinked_settings same
  refine ⟨?_, ?_, keeps.typed⟩
  · rw [at_server_redis_at call index now read unlinked]
    exact keeps.tiers
  · obtain ⟨stored, serves, entries⟩ := keeps.serves
    by_cases shared : tier.endpoint = now.endpoint
    · rw [shared] at serves ⊢
      have agree := (alone _ (Redis.Server.agree_refl _ serves.answering)).untouched
      rw [at_server_server]
      refine ⟨_, ⟨agree.reachable ▸ serves.reachable, agree.answering.2, rfl⟩, ?_⟩
      intro mine
      have different : ¬ RedisTier.serverKey now.keyPrefix key = RedisTier.serverKey tier.keyPrefix mine := by
        intro equal
        obtain ⟨clash, _⟩ := RedisTier.server_key_injective _ _ _ _ equal
        exact apart (endpoints.symm.trans shared.symm) (prefixes.symm.trans clash)
      rw [← agree.stored _ different, serves.stored]
      exact entries mine
    · rw [atServer, set_server_server, if_neg shared]
      exact ⟨stored, serves, entries⟩

end AtServer

section Own

variable (index : Nat) (key value : Json)

theorem stored_insert (stored : Table String (List UInt8))
    (entries : ∀ key, stored.find? (RedisTier.serverKey tier.keyPrefix key) = (lookup key writes).map serialize)
    (other : Json) :
    (stored.insert (RedisTier.serverKey tier.keyPrefix key) (serialize value)).find?
        (RedisTier.serverKey tier.keyPrefix other) = (lookup other ((key, value) :: writes)).map serialize := by
  rw [Table.find?_insert, lookup]
  by_cases same : other = key
  · rw [if_pos (by rw [same]), if_pos same, Option.map_some]
  · rw [if_neg, if_neg same]
    · exact entries other
    · intro equal
      exact same (RedisTier.server_key_injective _ _ _ _ equal).2

theorem own_reads (call : RedisTier → Redis.Server → Lookup Json × RedisTier × Redis.Server) (now : RedisTier)
    (read : world.state? index = some (.redis now)) (same : now.unlinked = tier.unlinked)
    (named : tier.valueType.WellNamed) (keeps : Keeps tiers tier writes world)
    (unlinked : ∀ server, (call now server).2.1.unlinked = now.unlinked)
    (answers : ∀ (server : Redis.Server) stored, server.Serves stored →
      (call now server).1 = now.decode (.ok (stored.find? (RedisTier.serverKey now.keyPrefix key))) ∧
        (call now server).2.2.Serves stored) :
    (atServer index call now world).1 = .ok (lookup key writes) ∧
      Keeps tiers tier writes (atServer index call now world).2 := by
  obtain ⟨stored, serves, entries⟩ := keeps.serves
  obtain ⟨endpoints, prefixes, _⟩ := RedisTier.unlinked_settings same
  rw [← endpoints] at serves
  obtain ⟨answer, after⟩ := answers _ stored serves
  rw [prefixes, entries key, RedisTier.decode_unlinked same, decode_latest key named keeps.typed] at answer
  exact at_server_own call index now _ stored writes read same unlinked keeps ⟨answer, after⟩ entries keeps.typed

theorem own_writes (call : RedisTier → Redis.Server → Except CacheError Unit × RedisTier × Redis.Server)
    (now : RedisTier)
    (read : world.state? index = some (.redis now)) (same : now.unlinked = tier.unlinked)
    (holds : tier.valueType.Holds value) (keeps : Keeps tiers tier writes world)
    (unlinked : ∀ server, (call now server).2.1.unlinked = now.unlinked)
    (answers : ∀ (server : Redis.Server) stored, server.Serves stored →
      (call now server).1 = .ok () ∧
        (call now server).2.2.Serves (stored.insert (RedisTier.serverKey now.keyPrefix key) (serialize value))) :
    (atServer index call now world).1 = .ok () ∧
      Keeps tiers tier ((key, value) :: writes) (atServer index call now world).2 := by
  obtain ⟨stored, serves, entries⟩ := keeps.serves
  obtain ⟨endpoints, prefixes, _⟩ := RedisTier.unlinked_settings same
  rw [← endpoints] at serves
  have served := answers _ stored serves
  rw [prefixes] at served
  exact at_server_own call index now _ _ _ read same unlinked keeps served (stored_insert key value stored entries)
    (List.forall_mem_cons.mpr ⟨holds, keeps.typed⟩)

variable (owned : tiers index = some tier.unlinked)
include owned

theorem own_slot (keeps : Keeps tiers tier writes world) :
    ∃ now, world.state? index = some (.redis now) ∧ now.unlinked = tier.unlinked :=
  redis_at_some index tier.unlinked world (by rw [keeps.tiers, owned])

theorem get_own (named : tier.valueType.WellNamed) (keeps : Keeps tiers tier writes world) :
    (world.get index key).1 = .ok (lookup key writes) ∧ Keeps tiers tier writes (world.get index key).2 := by
  obtain ⟨now, read, same⟩ := own_slot index owned keeps
  rw [World.get, read]
  exact own_reads index key (RedisTier.get key) now read same named keeps (RedisTier.command_unlinked _ now)
    fun server stored serves => RedisTier.get_serves key now serves

theorem get_late_own (named : tier.valueType.WellNamed) (keeps : Keeps tiers tier writes world) :
    (world.getLate index key).1 = .ok (lookup key writes) ∧ Keeps tiers tier writes (world.getLate index key).2 := by
  obtain ⟨now, read, same⟩ := own_slot index owned keeps
  rw [getLate, read]
  exact own_reads index key (RedisTier.getAsync key) now read same named keeps (RedisTier.command_async_unlinked _ _ now)
    fun server stored serves => RedisTier.get_async_serves key now serves

theorem put_own (holds : tier.valueType.Holds value) (keeps : Keeps tiers tier writes world) :
    (world.put index key value).1 = .ok () ∧ Keeps tiers tier ((key, value) :: writes) (world.put index key value).2 :=
    by
  obtain ⟨now, read, same⟩ := own_slot index owned keeps
  rw [World.put, read]
  exact own_writes index key value (RedisTier.put key value) now read same holds keeps (RedisTier.command_unlinked _ now)
    fun server stored serves => RedisTier.put_serves key value now serves

theorem put_late_own (holds : tier.valueType.Holds value) (keeps : Keeps tiers tier writes world) :
    (world.putLate index key value).1 = .ok () ∧
      Keeps tiers tier ((key, value) :: writes) (world.putLate index key value).2 := by
  obtain ⟨now, read, same⟩ := own_slot index owned keeps
  rw [putLate, read]
  exact own_writes index key value (RedisTier.putAsync key value) now read same holds keeps
    (RedisTier.command_async_unlinked _ _ now) fun server stored serves => RedisTier.put_async_serves key value now serves

end Own

section Beside

variable (index : Nat) (key value : Json) (other : RedisTier) (here : tiers index = some other.unlinked)
  (apart : other.endpoint = tier.endpoint → other.keyPrefix ≠ tier.keyPrefix)
include here apart

theorem get_beside (keeps : Keeps tiers tier writes world) : Keeps tiers tier writes (world.get index key).2 := by
  obtain ⟨now, read, same⟩ := redis_at_some index other.unlinked world (by rw [keeps.tiers, here])
  rw [World.get, read]
  exact at_server_beside (RedisTier.get key) index now other key read same apart (RedisTier.command_unlinked _ now)
    (fun server agree => RedisTier.get_private key now server server agree rfl) keeps

theorem get_late_beside (keeps : Keeps tiers tier writes world) :
    Keeps tiers tier writes (world.getLate index key).2 := by
  obtain ⟨now, read, same⟩ := redis_at_some index other.unlinked world (by rw [keeps.tiers, here])
  rw [getLate, read]
  exact at_server_beside (RedisTier.getAsync key) index now other key read same apart
    (RedisTier.command_async_unlinked _ _ now)
    (fun server agree => RedisTier.get_async_private key now server server agree rfl) keeps

theorem put_beside (keeps : Keeps tiers tier writes world) :
    Keeps tiers tier writes (world.put index key value).2 := by
  obtain ⟨now, read, same⟩ := redis_at_some index other.unlinked world (by rw [keeps.tiers, here])
  rw [World.put, read]
  exact at_server_beside (RedisTier.put key value) index now other key read same apart (RedisTier.command_unlinked _ now)
    (fun server agree => RedisTier.put_private key value now server server agree rfl) keeps

theorem put_late_beside (keeps : Keeps tiers tier writes world) :
    Keeps tiers tier writes (world.putLate index key value).2 := by
  obtain ⟨now, read, same⟩ := redis_at_some index other.unlinked world (by rw [keeps.tiers, here])
  rw [putLate, read]
  exact at_server_beside (RedisTier.putAsync key value) index now other key read same apart
    (RedisTier.command_async_unlinked _ _ now)
    (fun server agree => RedisTier.put_async_private key value now server server agree rfl) keeps

end Beside

end World

end CacheTiers
