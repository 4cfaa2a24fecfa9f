import CacheTiers.Operation
import CacheTiers.Proofs.Config.Verdict

namespace CacheTiers

-- What a pass through a list finds that remembers the entries behind it and stops at the first fault.
def firstFault {A F : Type} (faultOf : List A → A → Option F) (seen : List A) : List A → Option F
  | [] => none
  | entry :: rest => match faultOf seen entry with
    | some fault => some fault
    | none => firstFault faultOf (entry :: seen) rest

theorem first_fault_some {A F : Type} (faultOf : List A → A → Option F) (seen entries : List A) (fault : F) :
    firstFault faultOf seen entries = some fault ↔
      ∃ before entry after, entries = before ++ entry :: after ∧ firstFault faultOf seen before = none ∧
        faultOf (before.reverse ++ seen) entry = some fault := by
  induction entries generalizing seen with
  | nil => simp [firstFault]
  | cons first rest ih =>
      rw [firstFault]
      cases stops : faultOf seen first with
      | some found =>
          dsimp only
          constructor
          · rintro ⟨⟩
            exact ⟨[], first, rest, rfl, rfl, stops⟩
          · rintro ⟨before, entry, after, split, passed, faulty⟩
            rcases List.cons_eq_append_iff.mp split with ⟨rfl, same⟩ | ⟨behind, rfl, _⟩
            · obtain ⟨rfl, _⟩ := List.cons.inj same
              exact stops.symm.trans faulty
            · rw [firstFault, stops] at passed
              cases passed
      | none =>
          dsimp only
          rw [ih (first :: seen)]
          constructor
          · rintro ⟨before, entry, after, rfl, passed, faulty⟩
            refine ⟨first :: before, entry, after, rfl, ?_, ?_⟩
            · rw [firstFault, stops]
              exact passed
            · rw [List.reverse_cons, List.append_assoc]
              exact faulty
          · rintro ⟨before, entry, after, split, passed, faulty⟩
            rcases List.cons_eq_append_iff.mp split with ⟨rfl, same⟩ | ⟨behind, rfl, rest_split⟩
            · obtain ⟨rfl, _⟩ := List.cons.inj same
              rw [List.reverse_nil, List.nil_append, stops] at faulty
              cases faulty
            · rw [firstFault, stops] at passed
              rw [List.reverse_cons, List.append_assoc] at faulty
              exact ⟨behind, entry, after, rest_split, passed, faulty⟩

theorem first_repeated_none (seen names : List String) :
    Draft.firstRepeated? seen names = none ↔ names.Nodup ∧ ∀ name ∈ names, name ∉ seen := by
  induction names generalizing seen with
  | nil => simp [Draft.firstRepeated?]
  | cons name rest ih =>
      by_cases repeated : name ∈ seen
      · simp [Draft.firstRepeated?, repeated]
      · rw [Draft.firstRepeated?, if_neg repeated, ih (name :: seen), unseen_cons]
        exact ⟨fun others => ⟨repeated, others⟩, And.right⟩

theorem first_repeated_fault (seen names : List String) :
    Draft.firstRepeated? seen names = firstFault (fun seen name => if name ∈ seen then some name else none) seen names := by
  induction names generalizing seen with
  | nil => rfl
  | cons name rest ih =>
      by_cases repeated : name ∈ seen
      · rw [Draft.firstRepeated?, firstFault, if_pos repeated, if_pos repeated]
      · rw [Draft.firstRepeated?, firstFault, if_neg repeated, if_neg repeated, ih]

theorem first_repeated_some (names : List String) (name : String) :
    Draft.firstRepeated? [] names = some name ↔
      ∃ before after, names = before ++ name :: after ∧ before.Nodup ∧ name ∈ before := by
  have unrepeated (before : List String) :
      firstFault (fun seen name => if name ∈ seen then some name else none) [] before = none ↔ before.Nodup := by
    rw [← first_repeated_fault, first_repeated_none]
    exact ⟨And.left, fun distinct => ⟨distinct, fun _ _ => List.not_mem_nil⟩⟩
  rw [first_repeated_fault, first_fault_some]
  simp only [unrepeated, List.append_nil, List.mem_reverse, Option.ite_none_right_eq_some, Option.some.injEq]
  constructor
  · rintro ⟨before, _, after, split, distinct, repeated, rfl⟩
    exact ⟨before, after, split, distinct, repeated⟩
  · rintro ⟨before, after, split, distinct, repeated⟩
    exact ⟨before, name, after, split, distinct, repeated, rfl⟩

namespace Key

inductive FirstFault (params : List String) : ParamFault → Prop where
  | none (empty : params = []) : FirstFault params .none
  | blank (before after : List String) (param : String) (listed : params = before ++ param :: after)
    (distinct : before.Nodup) (visible : ∀ other ∈ before, Text.isBlank other = false)
    (blank : Text.isBlank param = true) : FirstFault params .blank
  | repeated (before after : List String) (param : String) (listed : params = before ++ param :: after)
    (distinct : before.Nodup) (visible : ∀ other ∈ before, Text.isBlank other = false)
    (known : param ∈ before) : FirstFault params (.repeated param)

def faultOf (seen : List String) (param : String) : Option ParamFault :=
  if Text.isBlank param then some .blank else if param ∈ seen then some (.repeated param) else Option.none

theorem fault_after_fault (seen params : List String) : faultAfter seen params = firstFault faultOf seen params := by
  induction params generalizing seen with
  | nil => rfl
  | cons param rest ih =>
      rw [faultAfter, firstFault, faultOf]
      by_cases blank : Text.isBlank param = true
      · rw [if_pos blank, if_pos blank]
      · by_cases repeated : param ∈ seen
        · rw [if_neg blank, if_pos repeated, if_neg blank, if_pos repeated]
        · rw [if_neg blank, if_neg repeated, if_neg blank, if_neg repeated, ih]

theorem fault_of_some (seen : List String) (param : String) (fault : ParamFault) :
    faultOf seen param = some fault ↔
      (Text.isBlank param = true ∧ fault = .blank) ∨
        Text.isBlank param = false ∧ param ∈ seen ∧ fault = .repeated param := by
  rw [faultOf]
  by_cases blank : Text.isBlank param = true
  · simp [blank, eq_comm]
  · by_cases repeated : param ∈ seen
    · simp [blank, repeated, eq_comm]
    · simp [blank, repeated]

theorem fault_after_some (params : List String) (fault : ParamFault) :
    faultAfter [] params = some fault ↔ FirstFault params fault ∧ params ≠ [] := by
  have passed (before : List String) : firstFault faultOf [] before = Option.none ↔
      before.Nodup ∧ ∀ other ∈ before, Text.isBlank other = false := by
    rw [← fault_after_fault, fault_after_none]
    exact ⟨fun sound => ⟨sound.1, sound.2.2⟩, fun sound => ⟨sound.1, fun _ _ => List.not_mem_nil, sound.2⟩⟩
  rw [fault_after_fault, first_fault_some]
  simp only [passed, List.append_nil, fault_of_some, List.mem_reverse]
  constructor
  · rintro ⟨before, param, after, rfl, ⟨distinct, visible⟩, ⟨blank, rfl⟩ | ⟨_, known, rfl⟩⟩
    · exact ⟨.blank before after param rfl distinct visible blank, by simp⟩
    · exact ⟨.repeated before after param rfl distinct visible known, by simp⟩
  · rintro ⟨first, inhabited⟩
    cases first with
    | none empty => exact absurd empty inhabited
    | blank before after param listed distinct visible blank =>
        exact ⟨before, param, after, listed, ⟨distinct, visible⟩, .inl ⟨blank, rfl⟩⟩
    | repeated before after param listed distinct visible known =>
        exact ⟨before, param, after, listed, ⟨distinct, visible⟩, .inr ⟨visible param known, known, rfl⟩⟩

theorem check_params_refused (params : List String) (fault : ParamFault) :
    checkParams params = .error fault ↔ FirstFault params fault := by
  rw [checkParams]
  by_cases empty : params = []
  · subst empty
    constructor
    · rintro ⟨⟩
      exact .none rfl
    · intro first
      cases first with
      | none _ => rfl
      | blank before after param listed => exact absurd listed (by simp)
      | repeated before after param listed => exact absurd listed (by simp)
  · have faults := fault_after_some params fault
    rw [if_neg (by simpa using empty)]
    cases found : faultAfter [] params with
    | some other =>
        rw [found] at faults
        simp only [Except.error.injEq]
        exact ⟨fun same => (faults.mp (congrArg some same)).1, fun first => Option.some.inj (faults.mpr ⟨first, empty⟩)⟩
    | none =>
        rw [found] at faults
        refine ⟨fun passes => absurd passes (by simp), fun first => ?_⟩
        cases faults.mpr ⟨first, empty⟩

theorem builder_new_sound (arity : Nat) (params : List String) (sound : SoundParams params) :
    (∃ builder, Builder.new arity params = .ok builder ∧ builder.params = params) ∧ params.length = arity ∨
      Builder.new arity params = .error (.config (.arity params arity)) ∧ params.length ≠ arity := by
  rw [Builder.new]
  split
  case h_1 fault refused =>
    rw [(check_params_ok params).mpr sound] at refused
    cases refused
  case h_2 checked =>
    by_cases fits : params.length = arity
    · rw [dif_pos fits]
      exact .inl ⟨⟨_, rfl, rfl⟩, fits⟩
    · rw [dif_neg fits]
      exact .inr ⟨rfl, fits⟩

end Key

namespace Draft

variable {T : Type}

inductive FirstFault (nameOf : T → String) (actual : Shape) (draft : Draft T) : CacheError → Prop where
  | noTiers (empty : draft.tiers = []) : FirstFault nameOf actual draft (.config (.noTiers draft.name))
  | repeatedTier (before after : List T) (tier : T) (listed : draft.tiers = before ++ tier :: after)
    (distinct : (before.map nameOf).Nodup) (known : nameOf tier ∈ before.map nameOf) :
    FirstFault nameOf actual draft (.config (.repeatedTier draft.name (nameOf tier)))
  | keyParams (inhabited : draft.tiers ≠ []) (distinct : (draft.tiers.map nameOf).Nodup) (fault : Key.ParamFault)
    (faulty : Key.FirstFault draft.keyParams fault) :
    FirstFault nameOf actual draft (.config (.keyParams draft.name fault))
  | shape (inhabited : draft.tiers ≠ []) (distinct : (draft.tiers.map nameOf).Nodup)
    (key : Key.SoundParams draft.keyParams) (declared : Shape) (given : draft.shape = some declared)
    (differs : declared.admitsAbsence ≠ actual.admitsAbsence) :
    FirstFault nameOf actual draft (.shapeMismatch draft.name declared.text actual.text)

structure Sound (nameOf : T → String) (actual : Shape) (draft : Draft T) : Prop where
  inhabited : draft.tiers ≠ []
  distinct : (draft.tiers.map nameOf).Nodup
  key : Key.SoundParams draft.keyParams
  fits : ∀ declared, draft.shape = some declared → declared.admitsAbsence = actual.admitsAbsence

theorem accepts_iff (declared : Option Shape) (actual : Shape) :
    (declared.getD actual).accepts actual = true ↔
      ∀ shape, declared = some shape → shape.admitsAbsence = actual.admitsAbsence := by
  cases declared with
  | none => simp [Shape.accepts]
  | some shape => simp [Shape.accepts]

variable (nameOf : T → String) (actual : Shape) (draft : Draft T)

theorem sound_or_faulty : Sound nameOf actual draft ∨ ∃ error, FirstFault nameOf actual draft error := by
  by_cases empty : draft.tiers = []
  · exact .inr ⟨_, .noTiers empty⟩
  cases repeated : firstRepeated? [] (draft.tiers.map nameOf) with
  | some name =>
      obtain ⟨before, after, split, distinct, known⟩ := (first_repeated_some _ name).mp repeated
      obtain ⟨sooner, rest, listed, rfl, behind⟩ := List.map_eq_append_iff.mp split
      obtain ⟨tier, later, rfl, rfl, rfl⟩ := List.map_eq_cons_iff.mp behind
      exact .inr ⟨_, .repeatedTier sooner later tier listed distinct known⟩
  | none =>
      have distinct := ((first_repeated_none [] _).mp repeated).1
      cases checked : Key.checkParams draft.keyParams with
      | error fault =>
          exact .inr ⟨_, .keyParams empty distinct fault ((Key.check_params_refused _ fault).mp checked)⟩
      | ok done =>
          have key := (Key.check_params_ok draft.keyParams).mp checked
          cases given : draft.shape with
          | none => exact .inl ⟨empty, distinct, key, by simp [given]⟩
          | some declared =>
              by_cases fits : declared.admitsAbsence = actual.admitsAbsence
              · exact .inl ⟨empty, distinct, key, by simp [given, fits]⟩
              · exact .inr ⟨_, .shape empty distinct key declared given fits⟩

theorem passes_tiers (inhabited : draft.tiers ≠ []) (distinct : (draft.tiers.map nameOf).Nodup) :
    draft.tiers.isEmpty = false ∧ firstRepeated? [] (draft.tiers.map nameOf) = none :=
  ⟨by simpa using inhabited, (first_repeated_none [] _).mpr ⟨distinct, fun _ _ => List.not_mem_nil⟩⟩

theorem build_keyed (inhabited : draft.tiers ≠ []) (distinct : (draft.tiers.map nameOf).Nodup)
    (key : Key.SoundParams draft.keyParams) :
    draft.build nameOf actual =
      if (draft.shape.getD actual).accepts actual then
        .ok ⟨draft.name, draft.tiers, draft.keyParams, draft.shape.getD actual, draft.backfillRuntime⟩
      else .error (.shapeMismatch draft.name (draft.shape.getD actual).text actual.text) := by
  obtain ⟨nonempty, unrepeated⟩ := passes_tiers nameOf draft inhabited distinct
  have checked := (Key.check_params_ok draft.keyParams).mpr key
  simp only [build, nonempty, unrepeated, checked, Bool.false_eq_true, if_false]

theorem build_sound (sound : Sound nameOf actual draft) :
    draft.build nameOf actual =
      .ok ⟨draft.name, draft.tiers, draft.keyParams, draft.shape.getD actual, draft.backfillRuntime⟩ := by
  rw [build_keyed nameOf actual draft sound.inhabited sound.distinct sound.key]
  exact if_pos ((accepts_iff draft.shape actual).mpr sound.fits)

theorem build_faulty (error : CacheError) (faulty : FirstFault nameOf actual draft error) :
    draft.build nameOf actual = .error error := by
  cases faulty with
  | noTiers empty => rw [build, if_pos (by simpa using empty)]
  | repeatedTier before after tier listed distinct known =>
      have repeated : firstRepeated? [] (draft.tiers.map nameOf) = some (nameOf tier) := by
        refine (first_repeated_some _ _).mpr ⟨before.map nameOf, after.map nameOf, ?_, distinct, known⟩
        rw [listed, List.map_append, List.map_cons]
      have nonempty : draft.tiers.isEmpty = false := by simp [listed]
      simp only [build, nonempty, repeated, Bool.false_eq_true, if_false]
  | keyParams inhabited distinct fault faulty =>
      obtain ⟨nonempty, unrepeated⟩ := passes_tiers nameOf draft inhabited distinct
      have refused := (Key.check_params_refused draft.keyParams fault).mpr faulty
      simp only [build, nonempty, unrepeated, refused, Bool.false_eq_true, if_false]
  | shape inhabited distinct key declared given differs =>
      have unfit : ¬ (draft.shape.getD actual).accepts actual = true := by simpa [given, Shape.accepts] using differs
      rw [build_keyed nameOf actual draft inhabited distinct key, if_neg unfit, given, Option.getD_some]

theorem build_ok_iff (operation : Operation T) :
    draft.build nameOf actual = .ok operation ↔
      Sound nameOf actual draft ∧
        operation = ⟨draft.name, draft.tiers, draft.keyParams, draft.shape.getD actual, draft.backfillRuntime⟩ := by
  rcases sound_or_faulty nameOf actual draft with sound | ⟨error, faulty⟩
  · rw [build_sound nameOf actual draft sound]
    exact ⟨fun same => ⟨sound, (Except.ok.inj same).symm⟩, fun same => congrArg Except.ok same.2.symm⟩
  · rw [build_faulty nameOf actual draft error faulty]
    refine ⟨fun built => (by cases built), fun ⟨sound, _⟩ => ?_⟩
    have built := build_sound nameOf actual draft sound
    rw [build_faulty nameOf actual draft error faulty] at built
    cases built

theorem build_error_iff (error : CacheError) :
    draft.build nameOf actual = .error error ↔ FirstFault nameOf actual draft error := by
  refine ⟨fun refused => ?_, build_faulty nameOf actual draft error⟩
  rcases sound_or_faulty nameOf actual draft with sound | ⟨other, faulty⟩
  · rw [build_sound nameOf actual draft sound] at refused
    cases refused
  · rw [build_faulty nameOf actual draft other faulty] at refused
    cases refused
    exact faulty

theorem build_like (tiers : List T) (names : tiers.map nameOf = draft.tiers.map nameOf) :
    { draft with tiers }.build nameOf actual = (draft.build nameOf actual).map fun operation =>
    { operation with tiers } := by
  have empty : tiers.isEmpty = draft.tiers.isEmpty := by
    rw [← List.isEmpty_map (f := nameOf), names, List.isEmpty_map]
  simp only [build, names, empty]
  split
  · rfl
  split
  · rfl
  split
  · rfl
  split
  · rfl
  · rfl

inductive Call (T : Type) where
  | tier (tier : T)
  | keyParams (params : List String)
  | shape (shape : Shape)
  | backfillRuntime

def Call.tier? : Call T → Option T
  | .tier added => some added
  | .keyParams _ | .shape _ | .backfillRuntime => none

def Call.keyParams? : Call T → Option (List String)
  | .keyParams params => some params
  | .tier _ | .shape _ | .backfillRuntime => none

def Call.shape? : Call T → Option Shape
  | .shape declared => some declared
  | .tier _ | .keyParams _ | .backfillRuntime => none

def Call.runtime : Call T → Bool
  | .backfillRuntime => true
  | .tier _ | .keyParams _ | .shape _ => false

def take (draft : Draft T) : Call T → Draft T
  | .tier added => draft.addTier added
  | .keyParams params => draft.withKeyParams params
  | .shape declared => draft.withShape declared
  | .backfillRuntime => draft.withBackfillRuntime

def collect (name : String) (calls : List (Call T)) : Draft T := calls.foldl take (.new name)

-- Tiers add up; of lists of key parameters and of shapes the last one counts.
theorem take_all (calls : List (Call T)) :
    calls.foldl take draft =
      ⟨draft.name, draft.tiers ++ calls.filterMap Call.tier?,
        (calls.filterMap Call.keyParams?).getLast?.getD draft.keyParams,
        (calls.filterMap Call.shape?).getLast?.or draft.shape, draft.backfillRuntime || calls.any Call.runtime⟩ := by
  induction calls generalizing draft with
  | nil => simp
  | cons call rest ih =>
      rw [List.foldl_cons, ih, List.filterMap_cons, List.filterMap_cons, List.filterMap_cons, List.any_cons]
      cases call with
      | tier added => simp [take, addTier, Call.tier?, Call.keyParams?, Call.shape?, Call.runtime]
      | keyParams params =>
          simp [take, withKeyParams, Call.tier?, Call.keyParams?, Call.shape?, Call.runtime, List.getLast?_cons]
      | shape declared =>
          have last (later : Option Shape) : later.or (some declared) = (some (later.getD declared)).or draft.shape := by
            cases later <;> rfl
          simp [take, withShape, Call.tier?, Call.keyParams?, Call.shape?, Call.runtime, List.getLast?_cons, last]
      | backfillRuntime => simp [take, withBackfillRuntime, Call.tier?, Call.keyParams?, Call.shape?, Call.runtime]

theorem collected (name : String) (calls : List (Call T)) :
    collect name calls =
      ⟨name, calls.filterMap Call.tier?, (calls.filterMap Call.keyParams?).getLast?.getD [],
        (calls.filterMap Call.shape?).getLast?, calls.any Call.runtime⟩ := by
  rw [collect, take_all, new, List.nil_append, Option.or_none, Bool.false_or]

theorem sound_iff :
    Sound nameOf actual draft ↔
      draft.tiers ≠ [] ∧ (draft.tiers.map nameOf).Nodup ∧ draft.keyParams ≠ [] ∧ draft.keyParams.Nodup ∧
        (∀ param ∈ draft.keyParams, ∃ c ∈ param.toList, Text.isBlankChar c = false) ∧
        ∀ declared, draft.shape = some declared → declared.admitsAbsence = actual.admitsAbsence := by
  constructor
  · rintro ⟨inhabited, distinct, ⟨keyed, keyDistinct, visible⟩, fits⟩
    exact ⟨inhabited, distinct, keyed, keyDistinct,
      fun param member => (Config.visible_text param).mp (visible param member), fits⟩
  · rintro ⟨inhabited, distinct, keyed, keyDistinct, visible, fits⟩
    exact ⟨inhabited, distinct,
      ⟨keyed, keyDistinct, fun param member => (Config.visible_text param).mpr (visible param member)⟩, fits⟩

theorem key_builder_sound (operation : Operation T) (sound : Key.SoundParams operation.keyParams) (arity : Nat) :
    ((∃ builder, operation.keyBuilder arity = .ok builder) ↔ operation.keyParams.length = arity) ∧
      (∀ builder, operation.keyBuilder arity = .ok builder → builder.params = operation.keyParams) ∧
      ∀ error, operation.keyBuilder arity = .error error → error = .config (.arity operation.keyParams arity) := by
  rw [Operation.keyBuilder]
  rcases Key.builder_new_sound arity operation.keyParams sound with ⟨⟨builder, made, same⟩, fits⟩ | ⟨refused, unfit⟩
  · rw [made]
    refine ⟨⟨fun _ => fits, fun _ => ⟨builder, rfl⟩⟩, ?_, ?_⟩
    · rintro _ ⟨⟩
      exact same
    · rintro _ ⟨⟩
  · rw [refused]
    refine ⟨⟨?_, fun fits => absurd fits unfit⟩, ?_, ?_⟩
    · rintro ⟨_, ⟨⟩⟩
    · rintro _ ⟨⟩
    · rintro _ ⟨⟩
      rfl

theorem built_exactly_where_sound (name : String) (calls : List (Call T)) :
    let tiers := calls.filterMap Call.tier?
    let params := (calls.filterMap Call.keyParams?).getLast?.getD []
    let declared := (calls.filterMap Call.shape?).getLast?
    let runtime := calls.any Call.runtime
    let built := (collect name calls).build nameOf actual
    ((∃ operation, built = .ok operation) ↔
        tiers ≠ [] ∧ (tiers.map nameOf).Nodup ∧ params ≠ [] ∧ params.Nodup ∧
          (∀ param ∈ params, ∃ c ∈ param.toList, Text.isBlankChar c = false) ∧
          ∀ shape, declared = some shape → shape.admitsAbsence = actual.admitsAbsence) ∧
      (∀ error, built = .error error ↔ FirstFault nameOf actual ⟨name, tiers, params, declared, runtime⟩ error) ∧
      ∀ operation, built = .ok operation →
        operation = ⟨name, tiers, params, declared.getD actual, runtime⟩ ∧
          ∀ arity, ((∃ builder, operation.keyBuilder arity = .ok builder) ↔ params.length = arity) ∧
            (∀ builder, operation.keyBuilder arity = .ok builder → builder.params = params) ∧
            ∀ error, operation.keyBuilder arity = .error error → error = .config (.arity params arity) := by
  intro tiers params declared runtime built
  have drafted : built = build nameOf actual ⟨name, tiers, params, declared, runtime⟩ :=
    congrArg (build nameOf actual) (collected name calls)
  rw [drafted]
  refine ⟨?_, fun error => build_error_iff nameOf actual _ error, ?_⟩
  · rw [← sound_iff nameOf actual ⟨name, tiers, params, declared, runtime⟩]
    constructor
    · rintro ⟨operation, made⟩
      exact ((build_ok_iff nameOf actual _ operation).mp made).1
    · exact fun sound => ⟨_, build_sound nameOf actual _ sound⟩
  · intro operation made
    obtain ⟨sound, rfl⟩ := (build_ok_iff nameOf actual _ operation).mp made
    exact ⟨rfl, fun arity => key_builder_sound ⟨name, tiers, params, declared.getD actual, runtime⟩ sound.key arity⟩

theorem draft_of_users :
    let calls : List (Call String) :=
      [.keyParams [" "], .tier "near", .shape .primitive, .tier "far", .keyParams ["id", "region"]]
    let repeating : List (Call String) := calls ++ [.tier "far", .tier "near", .keyParams []]
    (∃ operation, (collect "users" calls).build id .plain = .ok operation) ∧
      (collect "users" repeating).build id .plain = .error (.config (.repeatedTier "users" "far")) := by
  intro calls repeating
  refine ⟨(built_exactly_where_sound id .plain "users" calls).1.mpr ⟨by decide, by decide, by decide, by decide, ?_, ?_⟩, ?_⟩
  · have visible : ∀ param ∈ ["id", "region"], Text.isBlank param = false := by decide
    exact fun param member => (Config.visible_text param).mp (visible param member)
  · rintro _ ⟨⟩
    rfl
  · exact ((built_exactly_where_sound id .plain "users" repeating).2.1 _).mpr
      (.repeatedTier ["near", "far"] ["near"] "far" rfl (by decide) (by decide))

end Draft
end CacheTiers
