import CacheTiers.Proofs.Job.Run
import CacheTiers.Proofs.World.Entries

namespace CacheTiers

structure QuietOrigin where
  ask : World → Lookup Json × World
  slots : ∀ world, (ask world).2.slots = world.slots
  servers : ∀ world, (ask world).2.servers = world.servers

inductive TierCall where
  | get (key : Json)
  | put (key value : Json)
  | compute (key : Json) (origin : QuietOrigin)
  | getAsync (key : Json)
  | putAsync (key value : Json)

namespace TierCall

-- How a call ended; where a value was to be computed, with what the origin gave, if it was asked.
inductive Report where
  | read (found : Lookup Json)
  | wrote (done : Except CacheError Unit)
  | computed (given : Option (Lookup Json)) (found : Lookup Json)

def key : TierCall → Json
  | get key | put key _ | compute key _ | getAsync key | putAsync key _ => key

def run (ref : TierRef) : TierCall → World → Report × World
  | get key, world =>
    let (found, world) := (World.tier ref).get key world
    (.read found, world)
  | put key value, world =>
    let (done, world) := (World.tier ref).put key value world
    (.wrote done, world)
  | compute key origin, world =>
    match (World.tier ref).computeIfAbsent key world with
    | .answer found world => (.computed none found, world)
    | .ask resume world =>
      let (given, world) := origin.ask world
      let (found, world) := resume given world
      (.computed (some given) found, world)
  | getAsync key, world =>
    let (found, world) := ((World.tier ref).getAsync key).run world
    (.read found, world)
  | putAsync key value, world =>
    let (done, world) := ((World.tier ref).putAsync key value).run world
    (.wrote done, world)

def written : TierCall → Report → List (Json × Json)
  | put key value, .wrote (.ok ()) => [(key, value)]
  | putAsync key value, .wrote (.ok ()) => [(key, value)]
  | compute key _, .computed (some _) (.ok (some value)) => [(key, value)]
  | _, _ => []

def Typed (type : ValueType) : TierCall → Prop
  | put _ value | putAsync _ value => type.Holds value
  | compute _ origin => ∀ world value, (origin.ask world).1 = .ok (some value) → type.Holds value
  | get _ | getAsync _ => True

-- How a call to a map ends where the key has the given value, if any.
def Fits (held : Option Json) : TierCall → Report → Prop
  | get _, report | getAsync _, report => report = .read (.ok held)
  | put .., report | putAsync .., report => report = .wrote (.ok ())
  | compute .., report => match held with
    | some value => report = .computed none (.ok (some value))
    | none => ∃ given, report = .computed (some given) given

section Steps

open World (Keeps)

variable {tiers : Nat → Option RedisTier} {tier : RedisTier} {writes : List (Json × Json)} {world : World}

theorem compute_at_redis (ref : TierRef) (key : Json) (now : RedisTier)
    (read : world.state? ref.index = some (.redis now)) :
    (World.tier ref).computeIfAbsent key world =
      Tier.getThenPut (World.get ref.index) (World.put ref.index) key
        (world.noteAt ref.index (.called .compute ref.name)) := by
  change World.compute ref key world = _
  simp only [World.compute, read]

theorem get_async_run (ref : TierRef) (key : Json) (world : World) :
    ((World.tier ref).getAsync key).run world =
      let ran := (world.noteAt ref.index (.started .get ref.name)).getLate ref.index key
      (ran.1, ran.2.noteAt ref.index (.ended .get ref.name)) :=
  Job.run_after (world.getWaits ref.index) _ _

theorem put_async_run (ref : TierRef) (key value : Json) (world : World) :
    ((World.tier ref).putAsync key value).run world =
      let ran := (world.noteAt ref.index (.started .put ref.name)).putLate ref.index key value
      (ran.1, ran.2.noteAt ref.index (.ended .put ref.name)) :=
  Job.run_after (world.putWaits ref.index) _ _

theorem compute_own (ref : TierRef) (key : Json) (origin : QuietOrigin) (owned : tiers ref.index = some tier.unlinked)
    (named : tier.valueType.WellNamed) (typed : (compute key origin).Typed tier.valueType)
    (keeps : Keeps tiers tier writes world) :
    (compute key origin).Fits (lookup key writes) (run ref (compute key origin) world).1 ∧
      Keeps tiers tier (written (compute key origin) (run ref (compute key origin) world).1 ++ writes)
        (run ref (compute key origin) world).2 := by
  obtain ⟨now, read, _⟩ := World.own_slot ref.index owned keeps
  have noted := World.keeps_note_at ref.index (.called .compute ref.name) keeps
  obtain ⟨answer, kept⟩ := World.get_own ref.index key owned named noted
  rw [run, compute_at_redis ref key now read, Tier.getThenPut]
  rcases looked : (world.noteAt ref.index (.called .compute ref.name)).get ref.index key with ⟨found, after⟩
  rw [looked] at answer kept
  obtain rfl := answer
  cases held : lookup key writes with
  | some value => exact ⟨rfl, kept⟩
  | none =>
      have asked := World.keeps_of_same _ (origin.slots after) (origin.servers after) kept
      rcases given : origin.ask after with ⟨told, later⟩
      simp only [given] at asked ⊢
      cases told with
      | error error => exact ⟨⟨_, rfl⟩, asked⟩
      | ok told =>
          cases told with
          | none => exact ⟨⟨_, rfl⟩, asked⟩
          | some value =>
              have holds := typed after value (by rw [given])
              obtain ⟨done, stored⟩ := World.put_own ref.index key value owned holds asked
              rcases put : later.put ref.index key value with ⟨answer, last⟩
              rw [put] at done stored
              obtain rfl := done
              simp only [Tier.keep, put]
              exact ⟨⟨_, rfl⟩, stored⟩

theorem compute_beside (ref : TierRef) (key : Json) (origin : QuietOrigin) (other : RedisTier)
    (here : tiers ref.index = some other.unlinked)
    (apart : other.endpoint = tier.endpoint → other.keyPrefix ≠ tier.keyPrefix) (keeps : Keeps tiers tier writes world) :
    Keeps tiers tier writes (run ref (compute key origin) world).2 := by
  obtain ⟨now, read, _⟩ := World.redis_at_some ref.index other.unlinked world (by rw [keeps.tiers, here])
  have kept := World.get_beside ref.index key other here apart
    (World.keeps_note_at ref.index (.called .compute ref.name) keeps)
  rw [run, compute_at_redis ref key now read, Tier.getThenPut]
  rcases looked : (world.noteAt ref.index (.called .compute ref.name)).get ref.index key with ⟨found, after⟩
  rw [looked] at kept
  have asked := World.keeps_of_same _ (origin.slots after) (origin.servers after) kept
  rcases given : origin.ask after with ⟨told, later⟩
  rw [given] at asked
  cases found with
  | error error => exact kept
  | ok found =>
      cases found with
      | some value => exact kept
      | none =>
          simp only [given]
          cases told with
          | error error => exact asked
          | ok told =>
              cases told with
              | none => exact asked
              | some value =>
                  have stored := World.put_beside ref.index key value other here apart asked
                  rcases put : later.put ref.index key value with ⟨done, last⟩
                  rw [put] at stored
                  simp only [Tier.keep, put]
                  cases done with
                  | error error => exact stored
                  | ok done => exact stored

theorem own_step (ref : TierRef) (call : TierCall) (owned : tiers ref.index = some tier.unlinked)
    (named : tier.valueType.WellNamed) (typed : call.Typed tier.valueType) (keeps : Keeps tiers tier writes world) :
    call.Fits (lookup call.key writes) (call.run ref world).1 ∧
      Keeps tiers tier (call.written (call.run ref world).1 ++ writes) (call.run ref world).2 := by
  cases call with
  | get key =>
      obtain ⟨answer, kept⟩ :=
        World.get_own ref.index key owned named (World.keeps_note_at ref.index (.called .get ref.name) keeps)
      exact ⟨congrArg Report.read answer, kept⟩
  | put key value =>
      obtain ⟨answer, kept⟩ :=
        World.put_own ref.index key value owned typed (World.keeps_note_at ref.index (.called .put ref.name) keeps)
      have report : (run ref (put key value) world).1 = .wrote (.ok ()) := congrArg Report.wrote answer
      rw [report]
      exact ⟨rfl, kept⟩
  | compute key origin => exact compute_own ref key origin owned named typed keeps
  | getAsync key =>
      obtain ⟨answer, kept⟩ :=
        World.get_late_own ref.index key owned named (World.keeps_note_at ref.index (.started .get ref.name) keeps)
      rw [run, get_async_run]
      exact ⟨congrArg Report.read answer, World.keeps_note_at _ _ kept⟩
  | putAsync key value =>
      obtain ⟨answer, kept⟩ :=
        World.put_late_own ref.index key value owned typed (World.keeps_note_at ref.index (.started .put ref.name) keeps)
      rw [run, put_async_run]
      simp only [answer]
      exact ⟨rfl, World.keeps_note_at _ _ kept⟩

theorem beside_step (ref : TierRef) (call : TierCall) (other : RedisTier) (here : tiers ref.index = some other.unlinked)
    (apart : other.endpoint = tier.endpoint → other.keyPrefix ≠ tier.keyPrefix)
    (keeps : Keeps tiers tier writes world) :
    Keeps tiers tier writes (call.run ref world).2 := by
  cases call with
  | get key =>
      exact World.get_beside ref.index key other here apart (World.keeps_note_at ref.index (.called .get ref.name) keeps)
  | put key value =>
      exact World.put_beside ref.index key value other here apart
        (World.keeps_note_at ref.index (.called .put ref.name) keeps)
  | getAsync key =>
      have kept := World.get_late_beside ref.index key other here apart
        (World.keeps_note_at ref.index (.started .get ref.name) keeps)
      rw [run, get_async_run]
      exact World.keeps_note_at _ _ kept
  | putAsync key value =>
      have kept := World.put_late_beside ref.index key value other here apart
        (World.keeps_note_at ref.index (.started .put ref.name) keeps)
      rw [run, put_async_run]
      exact World.keeps_note_at _ _ kept
  | compute key origin => exact compute_beside ref key origin other here apart keeps

end Steps

structure Ended where
  ref : TierRef
  call : TierCall
  report : Report

def runAll : List (TierRef × TierCall) → World → List Ended × World
  | [], world => ([], world)
  | (ref, call) :: rest, world =>
    let (report, world) := call.run ref world
    let (later, world) := runAll rest world
    (⟨ref, call, report⟩ :: later, world)

def writesThrough (index : Nat) : List Ended → List (Json × Json)
  | [] => []
  | ended :: later =>
    writesThrough index later ++ if ended.ref.index = index then ended.call.written ended.report else []

-- Another redis tier of the world, which does not share both server and prefix with the given one.
def Beside (world : World) (tier : RedisTier) (ref : TierRef) : Prop :=
  ∃ other, world.state? ref.index = some (.redis other) ∧
    (other.endpoint = tier.endpoint → other.keyPrefix ≠ tier.keyPrefix)

theorem redis_at_of_state (world : World) (index : Nat) (tier : RedisTier)
    (here : world.state? index = some (.redis tier)) :
    world.redisAt? index = some tier.unlinked := by
  rw [World.redisAt?, here]

theorem run_all_keeps (index : Nat) (start : World) (tier : RedisTier) (calls : List (TierRef × TierCall))
    (writes : List (Json × Json)) (world : World) (here : start.state? index = some (.redis tier))
    (named : tier.valueType.WellNamed)
    (typed : ∀ use ∈ calls, use.1.index = index → use.2.Typed tier.valueType)
    (apart : ∀ use ∈ calls, use.1.index ≠ index → Beside start tier use.1)
    (keeps : World.Keeps start.redisAt? tier writes world) :
    World.Keeps start.redisAt? tier (writesThrough index (runAll calls world).1 ++ writes) (runAll calls world).2 := by
  -- The invariant is that the world keeps what has been written through the tier so far.
  induction calls generalizing writes world with
  | nil => exact keeps
  | cons use rest ih =>
      obtain ⟨ref, call⟩ := use
      obtain ⟨typedHere, typedLater⟩ := List.forall_mem_cons.mp typed
      obtain ⟨apartHere, apartLater⟩ := List.forall_mem_cons.mp apart
      simp only [runAll, writesThrough, List.append_assoc]
      by_cases own : ref.index = index
      · subst own
        obtain ⟨_, kept⟩ := own_step ref call (redis_at_of_state start ref.index tier here) named (typedHere rfl) keeps
        rw [if_pos rfl]
        exact ih _ _ typedLater apartLater kept
      · obtain ⟨other, there, different⟩ := apartHere own
        have kept := beside_step ref call other (redis_at_of_state start ref.index other there) different keeps
        rw [if_neg own, List.nil_append]
        exact ih _ _ typedLater apartLater kept

-- After any earlier calls, a call of the tier ends as it would on a map that has been given exactly the tier's writes.
theorem redis_tier_is_typed_map (ref : TierRef) (tier : RedisTier) (stored : Table String (List UInt8)) (world : World)
    (earlier : List (TierRef × TierCall)) (call : TierCall) (here : world.state? ref.index = some (.redis tier))
    (serves : (world.server tier.endpoint).Serves stored)
    (fresh : ∀ key, stored.find? (RedisTier.serverKey tier.keyPrefix key) = none) (named : tier.valueType.WellNamed)
    (typed : ∀ use ∈ earlier, use.1.index = ref.index → use.2.Typed tier.valueType)
    (also : call.Typed tier.valueType) (apart : ∀ use ∈ earlier, use.1.index ≠ ref.index → Beside world tier use.1) :
    let ran := runAll earlier world
    call.Fits (lookup call.key (writesThrough ref.index ran.1)) (call.run ref ran.2).1 := by
  have start : World.Keeps world.redisAt? tier [] world := ⟨rfl, ⟨stored, serves, fresh⟩, List.forall_mem_nil _⟩
  have keeps := run_all_keeps ref.index world tier earlier [] world here named typed apart start
  rw [List.append_nil] at keeps
  exact (own_step ref call (redis_at_of_state world ref.index tier here) named also keeps).1

-- Two tiers of one server. The prefix of the second one is the text of a key of the first one.
def sharedTier (keyPrefix : String) : RedisTier :=
  ⟨keyPrefix, keyPrefix, some 60, .optional .str, .tcp "cache" 1, false, false⟩

def sharedWorld : World :=
  ⟨[⟨.redis (sharedTier "app"), true⟩, ⟨.redis (sharedTier "app:1"), true⟩],
    .ofList [(.tcp "cache" 1, .new true 2)], []⟩

def mine : TierRef := ⟨0, "app"⟩

def yours : TierRef := ⟨1, "app:1"⟩

def constantOrigin : QuietOrigin := ⟨fun world => (.ok (some (.str "d")), world), fun _ => rfl, fun _ => rfl⟩

def sharedUses : List (TierRef × TierCall) :=
  [(yours, .put (.int 1) (.str "a")), (mine, .putAsync (.int 1) (.str "b")), (mine, .put (.int 1) .null),
    (mine, .compute (.int 2) constantOrigin), (yours, .putAsync (.int 1) (.str "c"))]

theorem stored_null_is_present :
    ((getAsync (.int 1)).run mine (runAll sharedUses sharedWorld).2).1 = .read (.ok (some .null)) ∧
      ((get (.int 3)).run mine (runAll sharedUses sharedWorld).2).1 = .read (.ok none) := by
  have typed : ∀ use ∈ sharedUses, use.1.index = 0 → use.2.Typed (.optional .str) := by
    simp only [sharedUses, List.forall_mem_cons]
    refine ⟨fun _ => ⟨rfl, by decide⟩, fun _ => ⟨rfl, by decide⟩, fun _ => ⟨rfl, by decide⟩, ?_,
      fun _ => ⟨rfl, by decide⟩, List.forall_mem_nil _⟩
    intro own world value told
    cases told
    exact ⟨rfl, by decide⟩
  have apart : ∀ use ∈ sharedUses, use.1.index ≠ 0 → Beside sharedWorld (sharedTier "app") use.1 := by
    have beside : Beside sharedWorld (sharedTier "app") yours := ⟨sharedTier "app:1", rfl, fun _ => by decide⟩
    simp only [sharedUses, List.forall_mem_cons]
    exact ⟨fun _ => beside, fun other => absurd rfl other, fun other => absurd rfl other, fun other => absurd rfl other,
      fun _ => beside, List.forall_mem_nil _⟩
  have serves : (sharedWorld.server (sharedTier "app").endpoint).Serves .empty := ⟨rfl, rfl, rfl⟩
  have written : writesThrough mine.index (runAll sharedUses sharedWorld).1 =
      [(.int 2, .str "d"), (.int 1, .null), (.int 1, .str "b")] := by
    decide +kernel
  have present := redis_tier_is_typed_map mine (sharedTier "app") .empty sharedWorld sharedUses (getAsync (.int 1)) rfl
    serves (fun _ => rfl) trivial typed trivial apart
  have absent := redis_tier_is_typed_map mine (sharedTier "app") .empty sharedWorld sharedUses (get (.int 3)) rfl serves
    (fun _ => rfl) trivial typed trivial apart
  simp only [written] at present absent
  exact ⟨present, absent⟩

end TierCall

end CacheTiers
