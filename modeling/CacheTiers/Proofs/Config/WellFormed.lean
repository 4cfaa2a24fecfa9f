import CacheTiers.Config.Check

namespace CacheTiers

theorem lookup_mem {α β : Type} [DecidableEq α] (key : α) (value : β) (entries : List (α × β))
    (found : lookup key entries = some value) : (key, value) ∈ entries := by
  induction entries with
  | nil => cases found
  | cons entry rest ih =>
      obtain ⟨k, v⟩ := entry
      rw [lookup] at found
      by_cases same : key = k
      · rw [if_pos same] at found
        cases found
        simp [same]
      · rw [if_neg same] at found
        exact List.mem_cons_of_mem _ (ih found)

theorem lookup_of_mem {α β : Type} [DecidableEq α] (key : α) (value : β) (entries : List (α × β))
    (nodup : (entries.map Prod.fst).Nodup) (member : (key, value) ∈ entries) : lookup key entries = some value := by
  induction entries with
  | nil => cases member
  | cons entry rest ih =>
      obtain ⟨k, v⟩ := entry
      obtain ⟨absent, distinct⟩ := List.nodup_cons.mp nodup
      rw [lookup]
      rcases List.mem_cons.mp member with same | later
      · cases same
        rw [if_pos rfl]
      · have different : key ≠ k := by
          rintro rfl
          exact absent (List.mem_map.mpr ⟨(key, value), later, rfl⟩)
        rw [if_neg different]
        exact ih distinct later

theorem find_entry {α β : Type} [DecidableEq α] (table : Table α β) (key : α) (value : β) :
    table.find? key = some value ↔ (key, value) ∈ table.entries :=
  ⟨lookup_mem key value table.entries, lookup_of_mem key value table.entries table.nodup⟩

theorem lookup_map {α β γ : Type} [DecidableEq α] (f : β → γ) (key : α) (entries : List (α × β)) :
    lookup key (entries.map fun entry => (entry.1, f entry.2)) = (lookup key entries).map f := by
  induction entries with
  | nil => rfl
  | cons entry rest ih =>
      simp only [List.map_cons, lookup]
      by_cases same : key = entry.1
      · simp [same]
      · simpa [same] using ih

theorem find_map_values {α β γ : Type} [DecidableEq α] (f : β → γ) (key : α) (table : Table α β) :
    (table.mapValues f).find? key = (table.find? key).map f :=
  lookup_map f key table.entries

theorem unseen_cons {name : String} {seen rest : List String} :
    ((name :: rest).Nodup ∧ ∀ other ∈ name :: rest, other ∉ seen) ↔
      name ∉ seen ∧ rest.Nodup ∧ ∀ other ∈ rest, other ∉ name :: seen := by
  rw [List.nodup_cons, List.forall_mem_cons]
  constructor
  · rintro ⟨⟨absent, distinct⟩, fresh, others⟩
    refine ⟨fresh, distinct, ?_⟩
    intro other member again
    rcases List.mem_cons.mp again with rfl | before
    · exact absent member
    · exact others other member before
  · rintro ⟨fresh, distinct, others⟩
    have absent : name ∉ rest := fun member => others name member List.mem_cons_self
    exact ⟨⟨absent, distinct⟩, fresh, fun other member before => others other member (List.mem_cons_of_mem _ before)⟩

namespace Key

theorem fault_after_none (seen params : List String) :
    faultAfter seen params = none ↔
      params.Nodup ∧ (∀ param ∈ params, param ∉ seen) ∧ ∀ param ∈ params, Text.isBlank param = false := by
  induction params generalizing seen with
  | nil => simp [faultAfter]
  | cons param rest ih =>
      by_cases blank : Text.isBlank param = true
      · simp [faultAfter, blank]
      · by_cases repeated : param ∈ seen
        · simp [faultAfter, blank, repeated]
        · have shown : Text.isBlank param = false := by simpa using blank
          rw [faultAfter, if_neg blank, if_neg repeated, ih (param :: seen)]
          constructor
          · rintro ⟨distinct, others, visible⟩
            obtain ⟨distinct, others⟩ := unseen_cons.mpr ⟨repeated, distinct, others⟩
            exact ⟨distinct, others, List.forall_mem_cons.mpr ⟨shown, visible⟩⟩
          · rintro ⟨distinct, others, visible⟩
            obtain ⟨_, distinct, others⟩ := unseen_cons.mp ⟨distinct, others⟩
            exact ⟨distinct, others, (List.forall_mem_cons.mp visible).2⟩

theorem check_params_ok (params : List String) : checkParams params = .ok () ↔ SoundParams params := by
  rw [checkParams]
  cases params with
  | nil => exact ⟨fun passes => absurd passes (by simp), fun sound => absurd rfl sound.nonempty⟩
  | cons param rest =>
      have faults := fault_after_none [] (param :: rest)
      rw [if_neg (by simp)]
      cases found : faultAfter [] (param :: rest) with
      | some fault =>
          refine ⟨fun passes => absurd passes (by simp), fun sound => ?_⟩
          rw [found] at faults
          cases faults.mpr ⟨sound.distinct, fun _ _ => List.not_mem_nil, sound.visible⟩
      | none =>
          obtain ⟨distinct, _, visible⟩ := faults.mp found
          exact ⟨fun _ => ⟨by simp, distinct, visible⟩, fun _ => rfl⟩

end Key

namespace Config

theorem demand_ok (condition : Bool) (violation : Violation) : demand condition violation = .ok () ↔ condition = true := by
  cases condition with
  | true => simp [demand]
  | false => simp [demand]

theorem checks_ok (first second : Except Violation Unit) :
    (first >>= fun _ => second) = .ok () ↔ first = .ok () ∧ second = .ok () := by
  cases first with
  | error violation => simp [bind, Except.bind]
  | ok done => simp [bind, Except.bind]

theorem check_each_ok {A : Type} (check : String → A → Except Violation Unit) (entries : List (String × A)) :
    checkEach check entries = .ok () ↔ ∀ entry ∈ entries, check entry.1 entry.2 = .ok () := by
  induction entries with
  | nil => simp [checkEach]
  | cons entry rest ih => rw [checkEach, checks_ok, ih, List.forall_mem_cons]

theorem check_uses_ok (tiers : Table String TierSetup) (operation : String) (seen uses : List String) :
    checkUses tiers operation seen uses = .ok () ↔
      uses.Nodup ∧ (∀ tier ∈ uses, tier ∉ seen) ∧ ∀ tier ∈ uses, tiers.contains tier = true := by
  induction uses generalizing seen with
  | nil => simp [checkUses]
  | cons tier rest ih =>
      rw [checkUses, checks_ok, checks_ok, demand_ok, demand_ok, ih, decide_eq_true_iff]
      constructor
      · rintro ⟨configured, fresh, distinct, others, known⟩
        obtain ⟨distinct, others⟩ := unseen_cons.mpr ⟨fresh, distinct, others⟩
        exact ⟨distinct, others, List.forall_mem_cons.mpr ⟨configured, known⟩⟩
      · rintro ⟨distinct, others, known⟩
        obtain ⟨fresh, distinct, others⟩ := unseen_cons.mp ⟨distinct, others⟩
        obtain ⟨configured, known⟩ := List.forall_mem_cons.mp known
        exact ⟨configured, fresh, distinct, others, known⟩

theorem length_le_bytes (characters : List Char) : characters.length ≤ (String.ofList characters).utf8ByteSize := by
  induction characters with
  | nil => simp
  | cons c rest ih =>
      have positive := Char.utf8Size_pos c
      rw [← List.singleton_append, String.ofList_append, String.utf8ByteSize_append, List.length_append,
        ← String.singleton_eq_ofList, String.utf8ByteSize_singleton, List.length_singleton]
      omega

theorem name_char_ascii (c : Char) (named : isNameChar c = true) : c.toNat ≤ 127 := by
  simp only [isNameChar, Bool.or_eq_true, Bool.and_eq_true, decide_eq_true_eq, Char.le_def, UInt32.le_iff_toNat_le] at named
  rcases named with (((lower | upper) | digit) | rfl) | rfl
  · exact Nat.le_trans lower.2 (by decide)
  · exact Nat.le_trans upper.2 (by decide)
  · exact Nat.le_trans digit.2 (by decide)
  · decide
  · decide

theorem name_bytes (characters : List Char) (named : ∀ c ∈ characters, isNameChar c = true) :
    (String.ofList characters).utf8ByteSize = characters.length := by
  induction characters with
  | nil => simp
  | cons c rest ih =>
      obtain ⟨first, others⟩ := List.forall_mem_cons.mp named
      have single : c.utf8Size = 1 := Char.utf8Size_eq_one_iff.mpr (name_char_ascii c first)
      rw [← List.singleton_append, String.ofList_append, String.utf8ByteSize_append, ih others,
        ← String.singleton_eq_ofList, String.utf8ByteSize_singleton, single, List.length_append, List.length_singleton]

theorem check_name_ok (what : Named) (name : String) : checkName what name = .ok () ↔ SoundName name := by
  simp only [checkName, checks_ok, demand_ok, decide_eq_true_iff]
  constructor
  · rintro ⟨nonempty, short, characters⟩
    refine ⟨?_, ?_, List.all_eq_true.mp characters⟩
    · rintro rfl
      exact nonempty rfl
    · have bytes := length_le_bytes name.toList
      rw [String.ofList_toList] at bytes
      omega
  · rintro ⟨nonempty, short, characters⟩
    have bytes := name_bytes name.toList characters
    rw [String.ofList_toList] at bytes
    refine ⟨fun empty => nonempty (String.utf8ByteSize_eq_zero_iff.mp empty), ?_, List.all_eq_true.mpr characters⟩
    omega

theorem check_default_ttl_ok (ttl : Nat) : checkDefaultTtl ttl = .ok () ↔ SoundTtl ttl := by
  simp only [checkDefaultTtl, checks_ok, demand_ok, decide_eq_true_iff, SoundTtl]
  omega

theorem check_ttl_ok (name : String) (given : Option Nat) :
    checkTtl name given = .ok () ↔ ∀ ttl, given = some ttl → SoundTtl ttl := by
  cases given with
  | none => simp [checkTtl]
  | some ttl =>
      simp only [checkTtl, checks_ok, demand_ok, decide_eq_true_iff, Option.some.injEq, forall_eq', SoundTtl]
      omega

theorem check_kind_ok (name : String) (tier : TierSetup) : checkKind name tier = .ok () ↔ SoundKind tier := by
  cases tier with
  | memory setup =>
      simp only [checkKind, checks_ok, demand_ok, decide_eq_true_iff, SoundKind]
      omega
  | redis setup =>
      simp only [checkKind, checks_ok, demand_ok, Bool.and_eq_true, decide_eq_true_iff, SoundKind]

theorem check_tier_ok (name : String) (tier : TierSetup) : checkTier name tier = .ok () ↔ SoundTier name tier := by
  rw [checkTier, checks_ok, checks_ok, check_name_ok, check_ttl_ok, check_kind_ok]
  exact ⟨fun passes => ⟨passes.1, passes.2.1, passes.2.2⟩, fun sound => ⟨sound.name, sound.ttl, sound.kind⟩⟩

theorem check_operation_ok (tiers : Table String TierSetup) (name : String) (setup : OperationSetup) :
    checkOperation tiers name setup = .ok () ↔ SoundOperation tiers name setup := by
  have inhabited : (!setup.tiers.isEmpty) = true ↔ setup.tiers ≠ [] := by simp
  have keyed : (Key.checkParams setup.key).mapError (.keyParams name) = (.ok () : Except Violation Unit) ↔
      Key.SoundParams setup.key := by
    rw [← Key.check_params_ok]
    cases Key.checkParams setup.key with
    | error fault => exact ⟨fun same => (by cases same), fun same => (by cases same)⟩
    | ok done => exact ⟨fun _ => rfl, fun _ => rfl⟩
  rw [checkOperation, checks_ok, checks_ok, checks_ok, demand_ok, check_name_ok, check_uses_ok, inhabited, keyed]
  constructor
  · rintro ⟨named, nonempty, ⟨distinct, _, configured⟩, key⟩
    exact ⟨named, nonempty, distinct, configured, key⟩
  · rintro ⟨named, nonempty, distinct, configured, key⟩
    exact ⟨named, nonempty, ⟨distinct, fun _ _ => List.not_mem_nil, configured⟩, key⟩

theorem check_version_ok (given : Option Nat) :
    checkVersion given = .ok () ↔ ∀ version, given = some version → version ≤ supportedVersion := by
  cases given with
  | none => simp [checkVersion]
  | some version => simp [checkVersion, demand_ok]

theorem check_ok (config : Config) : config.check = .ok () ↔ config.WellFormed := by
  rw [check, checks_ok, checks_ok, checks_ok, check_version_ok, check_default_ttl_ok, check_each_ok, check_each_ok]
  constructor
  · rintro ⟨version, defaultTtl, tiers, operations⟩
    refine ⟨version, defaultTtl, ?_, ?_⟩
    · intro name tier found
      exact (check_tier_ok name tier).mp (tiers (name, tier) ((find_entry config.tiers name tier).mp found))
    · intro name setup found
      exact (check_operation_ok config.tiers name setup).mp
        (operations (name, setup) ((find_entry config.operations name setup).mp found))
  · rintro ⟨version, defaultTtl, tiers, operations⟩
    refine ⟨version, defaultTtl, ?_, ?_⟩
    · intro entry member
      exact (check_tier_ok entry.1 entry.2).mpr (tiers _ _ ((find_entry config.tiers _ _).mpr member))
    · intro entry member
      exact (check_operation_ok config.tiers entry.1 entry.2).mpr
        (operations _ _ ((find_entry config.operations _ _).mpr member))

theorem effective_ttl_sound (config : Config) (sound : config.WellFormed) (name : String) (tier : TierSetup)
    (found : config.tiers.find? name = some tier) : SoundTtl (config.effectiveTtl tier) := by
  rw [effectiveTtl]
  cases own : tier.ttl with
  | none => exact sound.defaultTtl
  | some ttl => exact (sound.tiers name tier found).ttl ttl own

theorem effective_tier (config : Config) (sound : config.WellFormed) (name : String) (tier : TierSetup)
    (found : config.tiers.find? name = some tier) :
    ∃ ttl, 1 ≤ ttl ∧ config.effectiveTiers.find? name = some (tier.withTtl ttl) := by
  refine ⟨config.effectiveTtl tier, (effective_ttl_sound config sound name tier found).1, ?_⟩
  rw [effectiveTiers, find_map_values, found]
  rfl

end Config

end CacheTiers
