import CacheTiers.Proofs.Json.Typed
import Mathlib.Order.MinMax

namespace CacheTiers

namespace Json

mutual

theorem deep_tree_unreadable : (value : Json) → (depth : Nat) → depth < value.depth → value.tree.isReadable depth = false
  | .null, _, deep | .bool _, _, deep | .int _, _, deep | .str _, _, deep => by simp [Json.depth] at deep
  | .arr _, 0, _ => by rw [tree, Tree.isReadable]
  | .arr items, depth + 1, deep => by
    rw [tree, Tree.isReadable]
    exact deep_items_unreadable items depth (by simpa [Json.depth] using deep)
  | .obj _, 0, _ => by rw [tree, Tree.isReadable]
  | .obj members, depth + 1, deep => by
    rw [tree, Tree.isReadable]
    exact deep_members_unreadable members depth (by simpa [Json.depth] using deep)

theorem deep_items_unreadable : (items : List Json) → (depth : Nat) → depth < depthOfItems items →
    areItemsReadable depth (itemTrees items) = false
  | [], _, deep => by simp [depthOfItems] at deep
  | item :: items, depth, deep => by
    rw [depthOfItems, lt_max_iff] at deep
    rw [itemTrees, areItemsReadable, Bool.and_eq_false_iff]
    exact deep.imp (deep_tree_unreadable item depth) (deep_items_unreadable items depth)

theorem deep_members_unreadable : (members : List (String × Json)) → (depth : Nat) → depth < depthOfMembers members →
    areMembersReadable depth (memberTrees members) = false
  | [], _, deep => by simp [depthOfMembers] at deep
  | (_, value) :: members, depth, deep => by
    rw [depthOfMembers, lt_max_iff] at deep
    rw [memberTrees, areMembersReadable, Bool.and_assoc, Bool.and_eq_false_iff, Bool.and_eq_false_iff]
    exact .inr (deep.imp (deep_tree_unreadable value depth) (deep_members_unreadable members depth))

end

theorem deep_item (items : List Json) (depth : Nat) (deep : depth < depthOfItems items) :
    ∃ item ∈ items, depth < item.depth := by
  induction items with
  | nil => simp [depthOfItems] at deep
  | cons item items ih =>
      rw [depthOfItems, lt_max_iff] at deep
      rcases deep with here | later
      · exact ⟨item, List.mem_cons_self, here⟩
      · obtain ⟨other, among, beyond⟩ := ih later
        exact ⟨other, List.mem_cons_of_mem _ among, beyond⟩

end Json

namespace ValueType

open Json (itemTrees)

theorem read_all_refused (read : Json.Tree → Option Json) (items : List Json) (item : Json) (among : item ∈ items)
    (refused : read item.tree = none) : readAll read (itemTrees items) = none := by
  induction items with
  | nil => cases among
  | cons head items ih =>
      rw [itemTrees, readAll]
      rcases List.mem_cons.mp among with rfl | later
      · rw [refused]
        rfl
      · rw [ih later]
        cases read head.tree <;> rfl

mutual

-- A type goes down into a value exactly where the value nests, so the reader comes to the end of its depth before it
-- comes to the end of the value.
theorem read_of_deep_tree : (type : ValueType) → (value : Json) → (depth : Nat) → type.WellNamed →
    type.admits value = true → depth < value.depth → read? depth type value.tree = none
  | .bool, value, _, _, admitted, deep | .natural _, value, _, _, admitted, deep
  | .integer _, value, _, _, admitted, deep | .str, value, _, _, admitted, deep => by
    cases value <;> simp only [admits, Bool.false_eq_true] at admitted
    simp [Json.depth] at deep
  | .optional type, value, depth, named, admitted, deep => by
    rw [admits, Bool.or_eq_true] at admitted
    cases value with
    | null => simp [Json.depth] at deep
    | _ =>
        have inner := read_of_deep_tree type _ depth named (admitted.resolve_left (by simp)) deep
        simp only [Json.tree] at inner
        simpa only [Json.tree, read?] using inner
  | .list type, value, depth, named, admitted, deep => by
    cases value <;> simp only [admits, Bool.false_eq_true] at admitted
    next items =>
      cases depth with
      | zero => simp [read?]
      | succ depth =>
          obtain ⟨item, among, beyond⟩ := Json.deep_item items depth (by simpa [Json.depth] using deep)
          have refused := read_of_deep_tree type item depth named (List.all_eq_true.mp admitted item among) beyond
          rw [Json.tree, read?, read_all_refused _ items item among refused]
          rfl
  | .tuple types, value, depth, named, admitted, deep => by
    cases value <;> simp only [admits, Bool.false_eq_true] at admitted
    next items =>
      cases depth with
      | zero => simp [read?]
      | succ depth =>
          rw [Json.tree, read?, read_parts_of_deep_trees types items depth named admitted (by simpa [Json.depth] using deep)]
          rfl
  | .record fields, value, depth, named, admitted, deep => by
    cases value <;> simp only [admits, Bool.false_eq_true] at admitted
    next members =>
      cases depth with
      | zero => simp [read?]
      | succ depth =>
          have found := admitted_member_found fields members named.1 admitted
          rw [Json.tree, read?, named_member_trees]
          simp only [Option.bind_eq_bind, Option.bind_some]
          rw [read_fields_of_deep_trees fields members _ depth named.2 admitted (by simpa [Json.depth] using deep) found]
          rfl
  | .json, value, depth, _, _, deep => by
    rw [read?, Json.ofTree?, Json.deep_tree_unreadable value depth deep]
    rfl

theorem read_parts_of_deep_trees : (types : List ValueType) → (items : List Json) → (depth : Nat) →
    PartsWellNamed types → admitsParts types items = true → depth < Json.depthOfItems items →
    readParts? depth types (itemTrees items) = none
  | [], [], _, _, _, deep => by simp [Json.depthOfItems] at deep
  | [], _ :: _, _, _, admitted, _ => by simp [admitsParts] at admitted
  | _ :: _, [], _, _, admitted, _ => by simp [admitsParts] at admitted
  | type :: types, item :: items, depth, named, admitted, deep => by
    rw [admitsParts, Bool.and_eq_true] at admitted
    rw [Json.depthOfItems, lt_max_iff] at deep
    rw [itemTrees, readParts?]
    rcases deep with here | later
    · rw [read_of_deep_tree type item depth named.1 admitted.1 here]
      rfl
    · rw [read_parts_of_deep_trees types items depth named.2 admitted.2 later]
      cases read? depth type item.tree <;> rfl

theorem read_fields_of_deep_trees : (fields : List (String × ValueType)) → (members : List (String × Json)) →
    (all : List (String × Json.Tree)) → (depth : Nat) → FieldsWellNamed fields → admitsFields fields members = true →
    depth < Json.depthOfMembers members → (∀ member ∈ members, membersNamed member.1 all = [member.2.tree]) →
    readFields? depth fields all = none
  | [], [], _, _, _, _, deep, _ => by simp [Json.depthOfMembers] at deep
  | [], _ :: _, _, _, _, admitted, _, _ => by simp [admitsFields] at admitted
  | _ :: _, [], _, _, _, admitted, _, _ => by simp [admitsFields] at admitted
  | (name, type) :: fields, (other, value) :: members, all, depth, named, admitted, deep, found => by
    simp only [admitsFields, Bool.and_eq_true, beq_iff_eq] at admitted
    obtain ⟨⟨rfl, here⟩, later⟩ := admitted
    rw [Json.depthOfMembers, lt_max_iff] at deep
    obtain ⟨first, others⟩ := List.forall_mem_cons.mp found
    rw [readFields?.eq_def]
    simp only [first]
    rcases deep with beyond | below
    · rw [read_of_deep_tree type value depth named.1 here beyond]
      rfl
    · rw [read_fields_of_deep_trees fields members all depth named.2 later below others]
      cases read? depth type value.tree <;> rfl

end

end ValueType

theorem deserialize_deep (type : ValueType) (value : Json) (named : type.WellNamed) (admitted : type.admits value = true)
    (deep : Json.maxDepth < value.depth) :
    deserialize type (serialize value) = .error (.serialization "the bytes are no JSON text of the expected type") := by
  rw [deserialize, serialize, Text.decode_encode, ValueType.ofUnits?, Json.tree_of_write, Option.bind_eq_bind,
    Option.bind_some, ValueType.read_of_deep_tree type value _ named admitted deep]

theorem serialized_value_is_read_back_within_depth (type : ValueType) (value : Json) (named : type.WellNamed)
    (admitted : type.admits value = true) :
    Text.decode? (serialize value) = some value.write ∧ Json.tree? (Text.decode (serialize value)) = some value.tree ∧
      (value.depth ≤ 127 → deserialize type (serialize value) = .ok value) ∧
      (127 < value.depth → ∃ text, deserialize type (serialize value) = .error (.serialization text)) := by
  have decoded : Text.decode (serialize value) = value.write.map some := Text.decode_encode value.write
  refine ⟨Text.decode_whole value.write, ?_, deserialize_serialize type value named admitted,
    fun deep => ⟨_, deserialize_deep type value named admitted deep⟩⟩
  rw [decoded, Json.tree_of_write]

def Json.nest : Nat → Json
  | 0 => .arr []
  | n + 1 => .arr [nest n]

theorem Json.nest_depth (n : Nat) : (nest n).depth = n + 1 := by
  induction n with
  | zero => rfl
  | succ n ih => rw [nest, depth, depthOfItems, depthOfItems, ih, Nat.max_zero]

theorem Json.nest_admitted (n : Nat) : ValueType.json.admits (nest n) = true := by
  rw [ValueType.admits, Bool.and_eq_true, beq_iff_eq]
  induction n with
  | zero => exact ⟨rfl, rfl⟩
  | succ n ih =>
      refine ⟨?_, ?_⟩
      · rw [nest, canonical, canonicalItems, canonicalItems, ih.1]
      · rw [nest, fits, fitsItems, fitsItems, ih.2]
        rfl

theorem nested_arrays_at_the_limit :
    deserialize .json (serialize (Json.nest 126)) = .ok (Json.nest 126) ∧
      ∃ text, deserialize .json (serialize (Json.nest 127)) = .error (.serialization text) := by
  obtain ⟨_, _, within, _⟩ := serialized_value_is_read_back_within_depth .json (Json.nest 126) trivial (Json.nest_admitted 126)
  obtain ⟨_, _, _, beyond⟩ := serialized_value_is_read_back_within_depth .json (Json.nest 127) trivial (Json.nest_admitted 127)
  exact ⟨within (by rw [Json.nest_depth]), beyond (by rw [Json.nest_depth]; decide)⟩

end CacheTiers
