import CacheTiers.Json.ValueType
import CacheTiers.Proofs.Json.Parsed
import CacheTiers.Proofs.Text.Utf8

namespace CacheTiers

namespace Json

def Ascending (members : List (String × Json)) : Prop := members.Pairwise fun first second => first.1 < second.1

section Members

theorem lt_of_not_lt (name other : String) (different : name ≠ other) (below : ¬ name < other) : other < name := by
  by_cases above : other < name
  · exact above
  · exact absurd (String.le_antisymm (String.not_lt.mp above) (String.not_lt.mp below)) different

theorem insert_member_front (name : String) (value : Json) (members : List (String × Json))
    (below : ∀ member ∈ members, name < member.1) : insertMember name value members = (name, value) :: members := by
  cases members with
  | nil => rfl
  | cons member rest =>
      have first := below member List.mem_cons_self
      have different : name ≠ member.1 := fun same => String.lt_irrefl name (by rw [← same] at first; exact first)
      rw [insertMember, if_neg different, if_pos first]

theorem insert_member_back (name : String) (value : Json) (members : List (String × Json))
    (above : ∀ member ∈ members, member.1 < name) : insertMember name value members = members ++ [(name, value)] := by
  induction members with
  | nil => rfl
  | cons member rest ih =>
      obtain ⟨first, others⟩ := List.forall_mem_cons.mp above
      have different : name ≠ member.1 := fun same => String.lt_irrefl name (by rw [← same] at first; exact first)
      rw [insertMember, if_neg different, if_neg (String.lt_asymm first), ih others, List.cons_append]

theorem mem_insert_member (name : String) (value : Json) (members : List (String × Json)) (member : String × Json)
    (among : member ∈ insertMember name value members) : member.1 = name ∨ member ∈ members := by
  induction members with
  | nil => exact .inl (by rw [List.mem_singleton.mp among])
  | cons head rest ih =>
      rw [insertMember] at among
      split at among
      · rcases List.mem_cons.mp among with rfl | later
        · exact .inl rfl
        · exact .inr (List.mem_cons_of_mem _ later)
      · split at among
        · rcases List.mem_cons.mp among with rfl | later
          · exact .inl rfl
          · exact .inr later
        · rcases List.mem_cons.mp among with rfl | later
          · exact .inr List.mem_cons_self
          · exact (ih later).imp id (List.mem_cons_of_mem _)

theorem insert_member_ascending (name : String) (value : Json) (members : List (String × Json))
    (ascending : Ascending members) : Ascending (insertMember name value members) := by
  induction members with
  | nil => exact List.pairwise_singleton _ _
  | cons head rest ih =>
      obtain ⟨first, others⟩ := List.pairwise_cons.mp ascending
      rw [insertMember]
      by_cases same : name = head.1
      · rw [if_pos same]
        subst same
        exact List.pairwise_cons.mpr ⟨first, others⟩
      · rw [if_neg same]
        by_cases below : name < head.1
        · rw [if_pos below]
          refine List.pairwise_cons.mpr ⟨?_, ascending⟩
          exact List.forall_mem_cons.mpr ⟨below, fun member among => String.lt_trans below (first member among)⟩
        · rw [if_neg below]
          refine List.pairwise_cons.mpr ⟨?_, ih others⟩
          intro member among
          rcases mem_insert_member name value rest member among with named | later
          · rw [named]
            exact lt_of_not_lt name head.1 same below
          · exact first member later

theorem enter_ascending (members entered : List (String × Json)) (ascending : Ascending entered) :
    Ascending (members.foldl (fun entered member => insertMember member.1 member.2 entered) entered) := by
  induction members generalizing entered with
  | nil => exact ascending
  | cons member rest ih => exact ih _ (insert_member_ascending member.1 member.2 entered ascending)

theorem enter_all (members entered : List (String × Json)) (ascending : Ascending (entered ++ members)) :
    members.foldl (fun entered member => insertMember member.1 member.2 entered) entered = entered ++ members := by
  induction members generalizing entered with
  | nil => exact (List.append_nil entered).symm
  | cons member rest ih =>
      have above := (List.pairwise_append.mp ascending).2.2
      rw [List.foldl_cons, insert_member_back member.1 member.2 entered
        (fun other among => above other among member List.mem_cons_self), ih]
      · rw [List.append_assoc, List.singleton_append]
      · rw [List.append_assoc, List.singleton_append]
        exact ascending

theorem canonical_members_names (members : List (String × Json)) :
    (canonicalMembers members).map Prod.fst = members.map Prod.fst := by
  induction members with
  | nil => rfl
  | cons member rest ih => rw [canonicalMembers, List.map_cons, List.map_cons, ih]

theorem ascending_of_names (members others : List (String × Json)) (names : others.map Prod.fst = members.map Prod.fst)
    (ascending : Ascending members) : Ascending others := by
  have sorted : (members.map Prod.fst).Pairwise (· < ·) := List.pairwise_map.mpr ascending
  rw [← names] at sorted
  exact List.pairwise_map.mp sorted

theorem canonical_object (members : List (String × Json)) (canonical : (obj members).canonical = obj members) :
    Ascending members ∧ canonicalMembers members = members := by
  rw [Json.canonical, object, obj.injEq] at canonical
  have ascending : Ascending members := by
    rw [← canonical]
    exact enter_ascending _ [] List.Pairwise.nil
  have entered := enter_all (canonicalMembers members) []
    (ascending_of_names members _ (canonical_members_names members) ascending)
  exact ⟨ascending, entered.symm.trans canonical⟩

theorem lookup_above (name : String) (members : List (String × Json)) (below : ∀ member ∈ members, name < member.1) :
    lookup name members = none := by
  induction members with
  | nil => rfl
  | cons member rest ih =>
      obtain ⟨first, others⟩ := List.forall_mem_cons.mp below
      have different : name ≠ member.1 := fun same => String.lt_irrefl name (by rw [← same] at first; exact first)
      rw [lookup, if_neg different, ih others]

end Members

section Values

mutual

theorem value_of_tree : (value : Json) → value.canonical = value → value.fits = true → value.tree.value? = some value
  | .null, _, _ => rfl
  | .bool _, _, _ => rfl
  | .int value, _, fits => by
    rw [Json.fits] at fits
    rw [tree, Tree.value?, to_int_of_int, Option.bind_eq_bind, Option.bind_some, if_pos fits]
    rfl
  | .str value, _, _ => by
    rw [tree, Tree.value?, content_of_pieces, Option.map_some, String.ofList_toList]
  | .arr items, canonical, fits => by
    rw [Json.canonical, arr.injEq] at canonical
    rw [tree, Tree.value?, item_values_of_trees items canonical fits]
    rfl
  | .obj members, canonical, fits => by
    obtain ⟨ascending, same⟩ := canonical_object members canonical
    rw [tree, Tree.value?, member_values_of_trees members ascending same fits]
    rfl

theorem item_values_of_trees : (items : List Json) → canonicalItems items = items → fitsItems items = true →
    itemValues? (itemTrees items) = some items
  | [], _, _ => rfl
  | item :: items, canonical, fits => by
    obtain ⟨first, others⟩ := List.cons.inj canonical
    rw [fitsItems, Bool.and_eq_true] at fits
    rw [itemTrees, itemValues?, value_of_tree item first fits.1, item_values_of_trees items others fits.2]
    rfl

theorem member_values_of_trees : (members : List (String × Json)) → Ascending members →
    canonicalMembers members = members → fitsMembers members = true → memberValues? (memberTrees members) = some members
  | [], _, _, _ => rfl
  | (name, value) :: members, ascending, canonical, fits => by
    obtain ⟨below, rest⟩ := List.pairwise_cons.mp ascending
    obtain ⟨first, others⟩ := List.cons.inj canonical
    rw [fitsMembers, Bool.and_eq_true] at fits
    rw [memberTrees, memberValues?, content_of_pieces, member_values_of_trees members rest others fits.2,
      value_of_tree value (Prod.mk.inj first).2 fits.1]
    simp [String.ofList_toList, lookup_above name members below, insert_member_front name value members below]

end

theorem not_huge_of_fits (value : Int) (fits : (int value).fits = true) : (Numeral.ofInt value).isHuge = false := by
  have words : wordCount 64 = 18446744073709551616 := rfl
  have half : wordCount 63 = 9223372036854775808 := rfl
  simp only [Json.fits, isSignedWord, isWord, Bool.or_eq_true, decide_eq_true_eq, words, half] at fits
  cases value with
  | ofNat n => rw [Numeral.ofInt, Numeral.isHuge, words, if_pos (by simp at fits; omega)]
  | negSucc n => rw [Numeral.ofInt, Numeral.isHuge, words, if_pos (by simp at fits; omega)]

mutual

theorem tree_readable : (value : Json) → (depth : Nat) → value.fits = true → value.depth ≤ depth →
    value.tree.isReadable depth = true
  | .null, _, _, _ => by simp [tree, Tree.isReadable]
  | .bool _, _, _, _ => by simp [tree, Tree.isReadable]
  | .int value, _, fits, _ => by simp [tree, Tree.isReadable, not_huge_of_fits value fits]
  | .str value, _, _, _ => by simp [tree, Tree.isReadable, content_of_pieces]
  | .arr items, 0, _, within => by simp [Json.depth] at within
  | .arr items, depth + 1, fits, within => by
    rw [tree, Tree.isReadable]
    exact item_trees_readable items depth fits (by simpa [Json.depth] using within)
  | .obj members, 0, _, within => by simp [Json.depth] at within
  | .obj members, depth + 1, fits, within => by
    rw [tree, Tree.isReadable]
    exact member_trees_readable members depth fits (by simpa [Json.depth] using within)

theorem item_trees_readable : (items : List Json) → (depth : Nat) → fitsItems items = true →
    depthOfItems items ≤ depth → areItemsReadable depth (itemTrees items) = true
  | [], _, _, _ => by simp [itemTrees, areItemsReadable]
  | item :: items, depth, fits, within => by
    rw [fitsItems, Bool.and_eq_true] at fits
    rw [depthOfItems, Nat.max_le] at within
    rw [itemTrees, areItemsReadable, tree_readable item depth fits.1 within.1,
      item_trees_readable items depth fits.2 within.2]
    rfl

theorem member_trees_readable : (members : List (String × Json)) → (depth : Nat) → fitsMembers members = true →
    depthOfMembers members ≤ depth → areMembersReadable depth (memberTrees members) = true
  | [], _, _, _ => by simp [memberTrees, areMembersReadable]
  | (name, value) :: members, depth, fits, within => by
    rw [fitsMembers, Bool.and_eq_true] at fits
    rw [depthOfMembers, Nat.max_le] at within
    rw [memberTrees, areMembersReadable, content_of_pieces, tree_readable value depth fits.1 within.1,
      member_trees_readable members depth fits.2 within.2]
    rfl

end

theorem of_tree_of_value (value : Json) (depth : Nat) (canonical : value.canonical = value) (fits : value.fits = true)
    (within : value.depth ≤ depth) : ofTree? depth value.tree = some value := by
  rw [ofTree?, if_pos (tree_readable value depth fits within), value_of_tree value canonical fits]

end Values

end Json

namespace ValueType

open Json (content_of_pieces to_int_of_int itemTrees memberTrees)

mutual

def WellNamed : ValueType → Prop
  | .optional type | .list type => type.WellNamed
  | .tuple types => PartsWellNamed types
  | .record fields => (fields.map Prod.fst).Nodup ∧ FieldsWellNamed fields
  | .bool | .natural _ | .integer _ | .str | .json => True

def PartsWellNamed : List ValueType → Prop
  | [] => True
  | type :: types => type.WellNamed ∧ PartsWellNamed types

def FieldsWellNamed : List (String × ValueType) → Prop
  | [] => True
  | (_, type) :: fields => type.WellNamed ∧ FieldsWellNamed fields

end

theorem read_all_trees (read : Json.Tree → Option Json) (items : List Json)
    (each : ∀ item ∈ items, read item.tree = some item) : readAll read (itemTrees items) = some items := by
  induction items with
  | nil => rfl
  | cons item items ih =>
      obtain ⟨first, others⟩ := List.forall_mem_cons.mp each
      rw [itemTrees, readAll, first, ih others]
      rfl

theorem item_depth (items : List Json) (depth : Nat) (within : Json.depthOfItems items ≤ depth) :
    ∀ item ∈ items, item.depth ≤ depth := by
  induction items with
  | nil => exact List.forall_mem_nil _
  | cons item items ih =>
      rw [Json.depthOfItems, Nat.max_le] at within
      exact List.forall_mem_cons.mpr ⟨within.1, ih within.2⟩

theorem named_member_trees (members : List (String × Json)) :
    namedMembers? (memberTrees members) = some (members.map fun member => (member.1, member.2.tree)) := by
  induction members with
  | nil => rfl
  | cons member members ih =>
      rw [memberTrees, namedMembers?, content_of_pieces, ih]
      simp [String.ofList_toList]

theorem admitted_names (fields : List (String × ValueType)) (members : List (String × Json))
    (admitted : admitsFields fields members = true) : members.map Prod.fst = fields.map Prod.fst := by
  induction fields generalizing members with
  | nil =>
      cases members with
      | nil => rfl
      | cons member members => cases admitted
  | cons field fields ih =>
      cases members with
      | nil => cases admitted
      | cons member members =>
          simp only [admitsFields, Bool.and_eq_true, beq_iff_eq] at admitted
          rw [List.map_cons, List.map_cons, admitted.1.1, ih members admitted.2]

theorem only_member_named (members : List (String × Json.Tree)) (distinct : (members.map Prod.fst).Nodup)
    (member : String × Json.Tree) (among : member ∈ members) : membersNamed member.1 members = [member.2] := by
  induction members with
  | nil => cases among
  | cons head rest ih =>
      obtain ⟨fresh, others⟩ := List.nodup_cons.mp distinct
      rw [membersNamed]
      rcases List.mem_cons.mp among with rfl | later
      · have none : rest.filter (fun other => other.1 = member.1) = [] := by
          apply List.filter_eq_nil_iff.mpr
          intro other present
          simp only [decide_eq_true_eq]
          intro same
          exact fresh (same ▸ List.mem_map_of_mem present)
        rw [List.filter_cons_of_pos (by simp), none]
        rfl
      · have different : head.1 ≠ member.1 := fun same => fresh (same ▸ List.mem_map_of_mem later)
        rw [List.filter_cons_of_neg (by simpa using different)]
        exact ih others later

theorem admitted_member_found (fields : List (String × ValueType)) (members : List (String × Json))
    (distinct : (fields.map Prod.fst).Nodup) (admitted : admitsFields fields members = true) :
    ∀ member ∈ members,
      membersNamed member.1 (members.map fun member => (member.1, member.2.tree)) = [member.2.tree] := by
  intro member among
  have names : ((members.map fun member => (member.1, member.2.tree)).map Prod.fst).Nodup := by
    rw [List.map_map]
    exact admitted_names fields members admitted ▸ distinct
  exact only_member_named _ names (member.1, member.2.tree) (List.mem_map.mpr ⟨member, among, rfl⟩)

mutual

theorem read_of_tree : (type : ValueType) → (value : Json) → (depth : Nat) → type.WellNamed →
    type.admits value = true → value.depth ≤ depth → read? depth type value.tree = some value
  | .bool, value, depth, _, admitted, _ => by
    cases value <;> simp only [admits, Bool.false_eq_true] at admitted
    simp [Json.tree, read?]
  | .natural bits, value, depth, _, admitted, _ => by
    cases value <;> simp only [admits, Bool.false_eq_true] at admitted
    simp [Json.tree, read?, to_int_of_int, admitted]
  | .integer bits, value, depth, _, admitted, _ => by
    cases value <;> simp only [admits, Bool.false_eq_true] at admitted
    simp [Json.tree, read?, to_int_of_int, admitted]
  | .str, value, depth, _, admitted, _ => by
    cases value <;> simp only [admits, Bool.false_eq_true] at admitted
    simp [Json.tree, read?, content_of_pieces]
  | .optional type, value, depth, named, admitted, within => by
    rw [admits, Bool.or_eq_true] at admitted
    cases value with
    | null => simp [Json.tree, read?]
    | _ =>
        have inner := read_of_tree type _ depth named (admitted.resolve_left (by simp)) within
        simp only [Json.tree] at inner
        simpa only [Json.tree, read?] using inner
  | .list type, value, depth, named, admitted, within => by
    cases value <;> simp only [admits, Bool.false_eq_true] at admitted
    next items =>
      cases depth with
      | zero => simp [Json.depth] at within
      | succ depth =>
          have shallow := item_depth items depth (by simpa [Json.depth] using within)
          have all := List.all_eq_true.mp admitted
          rw [Json.tree, read?, read_all_trees _ items
            fun item member => read_of_tree type item depth named (all item member) (shallow item member)]
          rfl
  | .tuple types, value, depth, named, admitted, within => by
    cases value <;> simp only [admits, Bool.false_eq_true] at admitted
    next items =>
      cases depth with
      | zero => simp [Json.depth] at within
      | succ depth =>
          rw [Json.tree, read?, read_parts_of_trees types items depth named admitted (by simpa [Json.depth] using within)]
          rfl
  | .record fields, value, depth, named, admitted, within => by
    cases value <;> simp only [admits, Bool.false_eq_true] at admitted
    next members =>
      cases depth with
      | zero => simp [Json.depth] at within
      | succ depth =>
          have found := admitted_member_found fields members named.1 admitted
          rw [Json.tree, read?, named_member_trees]
          simp only [Option.bind_eq_bind, Option.bind_some]
          rw [read_fields_of_trees fields members _ depth named.2 admitted (by simpa [Json.depth] using within) found]
          rfl
  | .json, value, depth, _, admitted, within => by
    rw [admits, Bool.and_eq_true, beq_iff_eq] at admitted
    rw [read?, Json.of_tree_of_value value depth admitted.1 admitted.2 within]

theorem read_parts_of_trees : (types : List ValueType) → (items : List Json) → (depth : Nat) → PartsWellNamed types →
    admitsParts types items = true → Json.depthOfItems items ≤ depth → readParts? depth types (itemTrees items) = some items
  | [], [], _, _, _, _ => by simp [itemTrees, readParts?]
  | [], _ :: _, _, _, admitted, _ => by simp [admitsParts] at admitted
  | _ :: _, [], _, _, admitted, _ => by simp [admitsParts] at admitted
  | type :: types, item :: items, depth, named, admitted, within => by
    rw [admitsParts, Bool.and_eq_true] at admitted
    rw [Json.depthOfItems, Nat.max_le] at within
    rw [itemTrees, readParts?, read_of_tree type item depth named.1 admitted.1 within.1,
      read_parts_of_trees types items depth named.2 admitted.2 within.2]
    rfl

theorem read_fields_of_trees : (fields : List (String × ValueType)) → (members : List (String × Json)) →
    (all : List (String × Json.Tree)) → (depth : Nat) → FieldsWellNamed fields → admitsFields fields members = true →
    Json.depthOfMembers members ≤ depth → (∀ member ∈ members, membersNamed member.1 all = [member.2.tree]) →
    readFields? depth fields all = some members
  | [], [], _, _, _, _, _, _ => by simp [readFields?]
  | [], _ :: _, _, _, _, admitted, _, _ => by simp [admitsFields] at admitted
  | _ :: _, [], _, _, _, admitted, _, _ => by simp [admitsFields] at admitted
  | (name, type) :: fields, (other, value) :: members, all, depth, named, admitted, within, found => by
    simp only [admitsFields, Bool.and_eq_true, beq_iff_eq] at admitted
    obtain ⟨⟨rfl, here⟩, later⟩ := admitted
    rw [Json.depthOfMembers, Nat.max_le] at within
    obtain ⟨first, others⟩ := List.forall_mem_cons.mp found
    rw [readFields?.eq_def]
    simp only [first, read_of_tree type value depth named.1 here within.1,
      read_fields_of_trees fields members all depth named.2 later within.2 others]
    rfl

end

end ValueType

theorem deserialize_serialize (type : ValueType) (value : Json) (named : type.WellNamed)
    (admitted : type.admits value = true) (within : value.depth ≤ Json.maxDepth) :
    deserialize type (serialize value) = .ok value := by
  rw [deserialize, serialize, Text.decode_encode, ValueType.ofUnits?, Json.tree_of_write, Option.bind_eq_bind,
    Option.bind_some, ValueType.read_of_tree type value _ named admitted within]

end CacheTiers
