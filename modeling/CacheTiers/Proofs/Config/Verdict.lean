import CacheTiers.Proofs.Config.WellFormed

namespace CacheTiers

theorem find_reordered {α β : Type} [DecidableEq α] (table other : Table α β) (same : table.entries.Perm other.entries) :
    table.find? = other.find? := by
  funext key
  apply Option.ext
  intro value
  rw [find_entry, find_entry]
  exact same.mem_iff

namespace Config

structure Reordered (config other : Config) : Prop where
  version : config.version = other.version
  defaultTtl : config.defaultTtl = other.defaultTtl
  tiers : config.tiers.entries.Perm other.tiers.entries
  operations : config.operations.entries.Perm other.operations.entries

theorem reordered_symm {config other : Config} (reordered : Reordered config other) : Reordered other config :=
  ⟨reordered.version.symm, reordered.defaultTtl.symm, reordered.tiers.symm, reordered.operations.symm⟩

theorem sound_operation_reordered (tiers other : Table String TierSetup) (name : String) (setup : OperationSetup)
    (same : tiers.find? = other.find?) (sound : SoundOperation tiers name setup) : SoundOperation other name setup := by
  refine ⟨sound.name, sound.nonempty, sound.distinct, ?_, sound.key⟩
  rw [← same]
  exact sound.configured

theorem well_formed_reordered (config other : Config) (reordered : Reordered config other) (sound : config.WellFormed) :
    other.WellFormed := by
  have tiers := find_reordered _ _ reordered.tiers
  have operations := find_reordered _ _ reordered.operations
  refine ⟨?_, ?_, ?_, ?_⟩
  · rw [← reordered.version]
    exact sound.version
  · rw [← reordered.defaultTtl]
    exact sound.defaultTtl
  · rw [← tiers]
    exact sound.tiers
  · intro name setup found
    rw [← operations] at found
    exact sound_operation_reordered _ _ name setup tiers (sound.operations name setup found)

-- What is allowed, in numbers: seconds for times to live, entries for capacities, milliseconds for timeouts.
structure AllowedName (name : String) : Prop where
  least : 1 ≤ name.toList.length
  most : name.toList.length ≤ 64
  characters : ∀ c ∈ name.toList,
    ('A' ≤ c ∧ c ≤ 'Z') ∨ ('a' ≤ c ∧ c ≤ 'z') ∨ ('0' ≤ c ∧ c ≤ '9') ∨ c = '-' ∨ c = '_'

structure AllowedTier (name : String) (tier : TierSetup) : Prop where
  name : AllowedName name
  ttl : ∀ ttl, tier.ttl = some ttl → 1 ≤ ttl ∧ ttl ≤ 2592000
  capacity : ∀ setup, tier = .memory setup → 1 ≤ setup.capacity ∧ setup.capacity ≤ 10000000
  keyPrefix : ∀ setup, tier = .redis setup → ∀ given, setup.keyPrefix = some given → given ≠ ""
  connectionTimeout : ∀ setup, tier = .redis setup → 100 ≤ setup.connectionTimeout ∧ setup.connectionTimeout ≤ 30000
  commandTimeout : ∀ setup, tier = .redis setup → 100 ≤ setup.commandTimeout ∧ setup.commandTimeout ≤ 60000

structure AllowedOperation (config : Config) (name : String) (setup : OperationSetup) : Prop where
  name : AllowedName name
  tiers : setup.tiers ≠ []
  tiersDistinct : setup.tiers.Nodup
  configured : ∀ tier ∈ setup.tiers, ∃ found, config.tiers.find? tier = some found
  key : setup.key ≠ []
  keyDistinct : setup.key.Nodup
  keyVisible : ∀ param ∈ setup.key, ∃ c ∈ param.toList, Text.isBlankChar c = false

structure Allowed (config : Config) : Prop where
  version : ∀ version, config.version = some version → version ≤ 1
  defaultTtl : 1 ≤ config.defaultTtl ∧ config.defaultTtl ≤ 2592000
  tiers : ∀ name tier, config.tiers.find? name = some tier → AllowedTier name tier
  operations : ∀ name setup, config.operations.find? name = some setup → AllowedOperation config name setup

theorem name_char_allowed (c : Char) :
    isNameChar c = true ↔
      ('A' ≤ c ∧ c ≤ 'Z') ∨ ('a' ≤ c ∧ c ≤ 'z') ∨ ('0' ≤ c ∧ c ≤ '9') ∨ c = '-' ∨ c = '_' := by
  simp only [isNameChar, Bool.or_eq_true, Bool.and_eq_true, decide_eq_true_eq, or_assoc]
  exact or_left_comm

theorem allowed_name (name : String) : AllowedName name ↔ SoundName name := by
  have inhabited : 1 ≤ name.toList.length ↔ name ≠ "" := by
    rw [Nat.one_le_iff_ne_zero, ne_eq, List.length_eq_zero_iff, String.toList_eq_nil_iff]
  constructor
  · rintro ⟨least, most, characters⟩
    exact ⟨inhabited.mp least, most, fun c member => (name_char_allowed c).mpr (characters c member)⟩
  · rintro ⟨nonempty, short, characters⟩
    exact ⟨inhabited.mpr nonempty, short, fun c member => (name_char_allowed c).mp (characters c member)⟩

theorem allowed_tier (name : String) (tier : TierSetup) : AllowedTier name tier ↔ SoundTier name tier := by
  cases tier with
  | memory setup =>
      constructor
      · intro allowed
        exact ⟨(allowed_name name).mp allowed.name, allowed.ttl, allowed.capacity setup rfl⟩
      · intro sound
        refine ⟨(allowed_name name).mpr sound.name, sound.ttl, ?_, ?_, ?_, ?_⟩
        · rintro _ ⟨⟩
          exact sound.kind
        · rintro _ ⟨⟩
        · rintro _ ⟨⟩
        · rintro _ ⟨⟩
  | redis setup =>
      constructor
      · intro allowed
        have prefixed : setup.keyPrefix ≠ some "" := fun empty => allowed.keyPrefix setup rfl "" empty rfl
        exact ⟨(allowed_name name).mp allowed.name, allowed.ttl, prefixed, allowed.connectionTimeout setup rfl,
          allowed.commandTimeout setup rfl⟩
      · rintro ⟨named, ttl, prefixed, connection, command⟩
        refine ⟨(allowed_name name).mpr named, ttl, ?_, ?_, ?_, ?_⟩
        · rintro _ ⟨⟩
        · rintro _ ⟨⟩ given present rfl
          exact prefixed present
        · rintro _ ⟨⟩
          exact connection
        · rintro _ ⟨⟩
          exact command

theorem visible_text (text : String) : Text.isBlank text = false ↔ ∃ c ∈ text.toList, Text.isBlankChar c = false := by
  rw [Text.isBlank, List.all_eq_false]
  simp only [Bool.not_eq_true]

theorem allowed_operation (config : Config) (name : String) (setup : OperationSetup) :
    AllowedOperation config name setup ↔ SoundOperation config.tiers name setup := by
  constructor
  · intro allowed
    refine ⟨(allowed_name name).mp allowed.name, allowed.tiers, allowed.tiersDistinct, ?_, allowed.key,
      allowed.keyDistinct, ?_⟩
    · exact fun tier member => Option.isSome_iff_exists.mpr (allowed.configured tier member)
    · exact fun param member => (visible_text param).mpr (allowed.keyVisible param member)
  · intro sound
    refine ⟨(allowed_name name).mpr sound.name, sound.nonempty, sound.distinct, ?_, sound.key.nonempty,
      sound.key.distinct, ?_⟩
    · exact fun tier member => Option.isSome_iff_exists.mp (sound.configured tier member)
    · exact fun param member => (visible_text param).mp (sound.key.visible param member)

theorem allowed_iff_well_formed (config : Config) : config.Allowed ↔ config.WellFormed := by
  constructor
  · rintro ⟨version, defaultTtl, tiers, operations⟩
    exact ⟨version, defaultTtl, fun name tier found => (allowed_tier name tier).mp (tiers name tier found),
      fun name setup found => (allowed_operation config name setup).mp (operations name setup found)⟩
  · rintro ⟨version, defaultTtl, tiers, operations⟩
    exact ⟨version, defaultTtl, fun name tier found => (allowed_tier name tier).mpr (tiers name tier found),
      fun name setup found => (allowed_operation config name setup).mpr (operations name setup found)⟩

theorem check_accepts_allowed_in_any_order (config : Config) :
    (config.check = .ok () ↔ config.Allowed) ∧
      ∀ other, Reordered config other → (other.check = .ok () ↔ config.check = .ok ()) := by
  refine ⟨(check_ok config).trans (allowed_iff_well_formed config).symm, ?_⟩
  intro other reordered
  rw [check_ok, check_ok]
  exact ⟨well_formed_reordered other config (reordered_symm reordered), well_formed_reordered config other reordered⟩

def faultyConfig (tiers : List (String × TierSetup)) : Config where
  version := some 1
  defaultTtl := 300
  enableMetrics := true
  tiers := .ofList tiers
  operations := .ofList [("users", ⟨["near"], ["id"], .plain⟩)]

theorem either_fault_is_refused :
    let tiers := [("near", TierSetup.memory ⟨10, some 0⟩), ("far off", .memory ⟨10, none⟩)]
    (faultyConfig tiers).check = .error (.ttlZero "near") ∧
      (faultyConfig tiers.reverse).check = .error (.nameCharacters .tier "far off") ∧
      ((faultyConfig tiers.reverse).check = .ok () ↔ (faultyConfig tiers).check = .ok ()) := by
  intro tiers
  refine ⟨by rfl, by rfl, ?_⟩
  exact (check_accepts_allowed_in_any_order (faultyConfig tiers)).2 (faultyConfig tiers.reverse)
    ⟨rfl, rfl, by decide, .refl _⟩

end Config

end CacheTiers
