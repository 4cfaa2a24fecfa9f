import CacheTiers.Config.Check
import CacheTiers.Key.Builder
import CacheTiers.Manager.Registry
import CacheTiers.Proofs.Json.Parsed
import CacheTiers.Proofs.Json.SameValue
import CacheTiers.Proofs.Json.Scan
import Mathlib.Data.List.Basic
import Mathlib.Data.List.Forall2

namespace CacheTiers

theorem RedisTier.server_key_chars (keyPrefix : String) (key : Json) :
    (serverKey keyPrefix key).toList = keyPrefix.toList ++ ':' :: key.write := by
  simp [serverKey, Json.render]

-- The text of a key does not end in a colon and the text of another key.
theorem key_behind_colon (between : List Char) (key inner : Json)
    (behind : ':' :: key.write = between ++ ':' :: inner.write) : between = [] ∧ key = inner := by
  cases between with
  | nil => exact ⟨rfl, Json.write_injective key inner (List.cons.inj behind).2⟩
  | cons c between => exact absurd (List.cons.inj behind).2 (Json.Scan.write_not_behind_colon between key inner)

theorem RedisTier.server_key_injective (keyPrefix other : String) (key inner : Json)
    (same : serverKey keyPrefix key = serverKey other inner) : keyPrefix = other ∧ key = inner := by
  have written := congrArg String.toList same
  rw [server_key_chars, server_key_chars] at written
  rcases List.append_eq_append_iff.mp written with ⟨between, front, behind⟩ | ⟨between, front, behind⟩
  · obtain ⟨rfl, keys⟩ := key_behind_colon between key inner behind
    rw [List.append_nil] at front
    exact ⟨(String.toList_inj.mp front).symm, keys⟩
  · obtain ⟨rfl, keys⟩ := key_behind_colon between inner key behind
    rw [List.append_nil] at front
    exact ⟨String.toList_inj.mp front, keys.symm⟩

-- The arguments may list the members of their objects in any order.
theorem RedisTier.server_key_tells_prefix_and_arguments (keyPrefix other : String) (arguments others : List Json)
    (arity : arguments.length = others.length) :
    serverKey keyPrefix (Key.ofArguments (arguments.map Json.canonical)) =
        serverKey other (Key.ofArguments (others.map Json.canonical)) ↔
      keyPrefix = other ∧ List.Forall₂ Json.SameValue arguments others := by
  have told : arguments.map Json.canonical = others.map Json.canonical ↔ List.Forall₂ Json.SameValue arguments others := by
    rw [← List.forall₂_eq_eq_eq, List.forall₂_map_left_iff, List.forall₂_map_right_iff]
    simp only [Json.canonical_eq_iff]
  constructor
  · intro same
    obtain ⟨prefixes, keys⟩ := server_key_injective keyPrefix other _ _ same
    have equal := Key.of_arguments_injective _ _ (by rw [List.length_map, List.length_map, arity]) keys
    exact ⟨prefixes, told.mp equal⟩
  · rintro ⟨rfl, alike⟩
    rw [told.mpr alike]

theorem RedisTier.server_keys_under_longer_prefix :
    serverKey "users:[\"a\"" (Key.ofArguments [.str "b:[1]", .int 7]) ≠
        serverKey "users" (Key.ofArguments [.str "a\":[\"b:[1]", .int 7]) ∧
      serverKey "users" (Key.ofArguments ([.obj [("x", .int 1), ("y", .null)], .int 7].map Json.canonical)) =
        serverKey "users" (Key.ofArguments ([.obj [("y", .null), ("x", .int 1)], .int 7].map Json.canonical)) := by
  refine ⟨?_, ?_⟩
  · intro same
    have told := (server_key_tells_prefix_and_arguments "users:[\"a\"" "users" [.str "b:[1]", .int 7]
      [.str "a\":[\"b:[1]", .int 7] rfl).mp same
    exact absurd told.1 (by decide)
  · apply (server_key_tells_prefix_and_arguments "users" "users" [.obj [("x", .int 1), ("y", .null)], .int 7]
      [.obj [("y", .null), ("x", .int 1)], .int 7] rfl).mpr
    exact ⟨rfl, .cons (Json.same_value_of_canonical _ _ (by decide)) (.cons (.int 7) .nil)⟩

def OperationKey (operation text : String) : Prop :=
  ∃ before key, text = RedisTier.serverKey (before ++ ":" ++ operation) key

theorem behind_last_colon (before other name twin : List Char) (clear : ':' ∉ name) (also : ':' ∉ twin)
    (same : before ++ ':' :: name = other ++ ':' :: twin) : name = twin := by
  have split (first second rest : List Char) (clear : ':' ∉ second) (same : ':' :: second = first ++ ':' :: rest) :
      second = rest := by
    cases first with
    | nil => exact (List.cons.inj same).2
    | cons c first =>
        have inside : ':' ∈ second := by
          rw [(List.cons.inj same).2]
          simp
        exact absurd inside clear
  rcases List.append_eq_append_iff.mp same with ⟨mid, _, same⟩ | ⟨mid, _, same⟩
  · exact split mid name twin clear same
  · exact (split mid twin name also same).symm

theorem sound_name_clear (name : String) (sound : Config.SoundName name) : ':' ∉ name.toList := by
  intro member
  have named := sound.characters ':' member
  cases named

theorem operation_key_unique (operation other text : String) (sound : Config.SoundName operation)
    (also : Config.SoundName other) (mine : OperationKey operation text) (yours : OperationKey other text) :
    operation = other := by
  obtain ⟨before, key, written⟩ := mine
  obtain ⟨front, inner, writtenOther⟩ := yours
  obtain ⟨prefixes, _⟩ := RedisTier.server_key_injective _ _ key inner (written.symm.trans writtenOther)
  have same : before.toList ++ ':' :: operation.toList = front.toList ++ ':' :: other.toList := by
    simpa using congrArg String.toList prefixes
  have names := behind_last_colon _ _ _ _ (sound_name_clear operation sound) (sound_name_clear other also) same
  exact String.toList_inj.mp names

end CacheTiers
