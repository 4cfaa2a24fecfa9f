import CacheTiers.Proofs.Json.Typed

namespace CacheTiers.Json

-- The value of a member; of several members of one name the last one counts.
def member? (name : String) (members : List (String × Json)) : Option Json := lookup name members.reverse

inductive SameValue : Json → Json → Prop where
  | null : SameValue null null
  | bool (value : Bool) : SameValue (bool value) (bool value)
  | int (value : Int) : SameValue (int value) (int value)
  | str (value : String) : SameValue (str value) (str value)
  | arr (items others : List Json) (length : items.length = others.length)
    (each : ∀ (spot : Nat) (item other : Json), items[spot]? = some item → others[spot]? = some other → SameValue item other) :
    SameValue (arr items) (arr others)
  | obj (members others : List (String × Json))
    (names : ∀ name, (member? name members).isSome = (member? name others).isSome)
    (each : ∀ name value other, member? name members = some value → member? name others = some other →
      SameValue value other) :
    SameValue (obj members) (obj others)

section Members

theorem lookup_append (name : String) (members others : List (String × Json)) :
    lookup name (members ++ others) = (lookup name members).or (lookup name others) := by
  induction members with
  | nil => rfl
  | cons member rest ih =>
      rw [List.cons_append, lookup, lookup]
      by_cases same : name = member.1
      · rw [if_pos same, if_pos same, Option.some_or]
      · rw [if_neg same, if_neg same, ih]

theorem member_cons (name : String) (member : String × Json) (rest : List (String × Json)) :
    member? name (member :: rest) = (member? name rest).or (if name = member.1 then some member.2 else none) := by
  rw [member?, List.reverse_cons, lookup_append]
  rfl

theorem lookup_insert_member (name other : String) (value : Json) (members : List (String × Json)) :
    lookup other (insertMember name value members) = if other = name then some value else lookup other members := by
  induction members with
  | nil => rfl
  | cons head rest ih =>
      rw [insertMember]
      by_cases same : name = head.1
      · rw [if_pos same, lookup, lookup]
        by_cases here : other = name
        · rw [if_pos here, if_pos here]
        · rw [if_neg here, if_neg here, if_neg fun met => here (met.trans same.symm)]
      · rw [if_neg same]
        by_cases below : name < head.1
        · rw [if_pos below, lookup]
        · rw [if_neg below, lookup, lookup, ih]
          by_cases here : other = head.1
          · rw [if_pos here, if_pos here, if_neg fun met => same (met.symm.trans here)]
          · rw [if_neg here, if_neg here]

theorem lookup_entered (name : String) (members entered : List (String × Json)) :
    lookup name (members.foldl (fun entered member => insertMember member.1 member.2 entered) entered) =
      (member? name members).or (lookup name entered) := by
  induction members generalizing entered with
  | nil => rfl
  | cons member rest ih =>
      rw [List.foldl_cons, ih, lookup_insert_member, member_cons]
      by_cases here : name = member.1
      · rw [if_pos here, if_pos here, Option.or_assoc, Option.some_or]
      · rw [if_neg here, if_neg here, Option.or_none]

theorem canonical_member (name : String) (members : List (String × Json)) :
    member? name (canonicalMembers members) = (member? name members).map canonical := by
  induction members with
  | nil => rfl
  | cons member rest ih =>
      rw [canonicalMembers, member_cons, member_cons, ih]
      by_cases here : name = member.1
      · cases found : member? name rest with
        | none => simp [here]
        | some value => simp
      · simp [here]

theorem member_among (name : String) (value : Json) (members : List (String × Json))
    (found : member? name members = some value) : (name, value) ∈ members := by
  induction members with
  | nil => cases found
  | cons member rest ih =>
      rw [member_cons] at found
      cases later : member? name rest with
      | some other =>
          rw [later, Option.some_or] at found
          exact List.mem_cons_of_mem _ (ih (later.trans found))
      | none =>
          rw [later, Option.none_or] at found
          by_cases here : name = member.1
          · rw [if_pos here] at found
            cases found
            cases here
            exact List.mem_cons_self
          · rw [if_neg here] at found
            cases found

theorem ascending_unique (members others : List (String × Json)) (ascending : Ascending members)
    (also : Ascending others) (same : ∀ name, lookup name members = lookup name others) : members = others := by
  induction members generalizing others with
  | nil =>
      cases others with
      | nil => rfl
      | cons other others =>
          have found := same other.1
          rw [lookup, lookup, if_pos rfl] at found
          cases found
  | cons member rest ih =>
      cases others with
      | nil =>
          have found := same member.1
          rw [lookup, lookup, if_pos rfl] at found
          cases found
      | cons other others =>
          obtain ⟨above, ordered⟩ := List.pairwise_cons.mp ascending
          obtain ⟨beyond, sorted⟩ := List.pairwise_cons.mp also
          have absent (name : String) (below : name < other.1) : lookup name (other :: others) = none :=
            lookup_above name _ (List.forall_mem_cons.mpr
              ⟨below, fun next among => String.lt_trans below (beyond next among)⟩)
          have missing (name : String) (below : name < member.1) : lookup name (member :: rest) = none :=
            lookup_above name _ (List.forall_mem_cons.mpr
              ⟨below, fun next among => String.lt_trans below (above next among)⟩)
          have here : lookup member.1 (member :: rest) = some member.2 := if_pos rfl
          have there : lookup other.1 (other :: others) = some other.2 := if_pos rfl
          have first : member.1 = other.1 := by
            by_contra different
            by_cases below : member.1 < other.1
            · rw [same, absent member.1 below] at here
              cases here
            · rw [← same, missing other.1 (lt_of_not_lt member.1 other.1 different below)] at there
              cases there
          have value : member.2 = other.2 := by
            rw [same, first, there] at here
            exact (Option.some.inj here).symm
          have tails : rest = others := by
            apply ih others ordered sorted
            intro name
            by_cases met : name = member.1
            · rw [met, lookup_above member.1 rest above, first, lookup_above other.1 others beyond]
            · have found := same name
              rw [lookup, lookup, if_neg met, if_neg fun equal => met (equal.trans first.symm)] at found
              exact found
          rw [tails, Prod.ext first value]

theorem object_unique (members others : List (String × Json))
    (same : ∀ name, member? name members = member? name others) : object members = object others := by
  refine congrArg obj (ascending_unique _ _ (enter_ascending members [] .nil) (enter_ascending others [] .nil) ?_)
  intro name
  rw [lookup_entered, lookup_entered, same]

theorem member_of_object (members others : List (String × Json)) (same : object members = object others)
    (name : String) : member? name members = member? name others := by
  have found := congrArg (lookup name) (obj.inj same)
  simpa only [lookup_entered, lookup, Option.or_none] using found

end Members

section Items

theorem canonical_items_map (items : List Json) : canonicalItems items = items.map canonical := by
  induction items with
  | nil => rfl
  | cons item rest ih => rw [canonicalItems, ih, List.map_cons]

theorem canonical_of_same_value (value other : Json) (same : SameValue value other) : value.canonical = other.canonical := by
  induction same with
  | null | bool _ | int _ | str _ => rfl
  | arr items others length _ each =>
      rw [canonical, canonical, canonical_items_map, canonical_items_map]
      refine congrArg arr (List.ext_getElem? fun spot => ?_)
      rw [List.getElem?_map, List.getElem?_map]
      cases here : items[spot]? with
      | none =>
          have beyond := List.getElem?_eq_none_iff.mp here
          rw [List.getElem?_eq_none_iff.mpr (length ▸ beyond)]
      | some item =>
          obtain ⟨within, _⟩ := List.getElem?_eq_some_iff.mp here
          have there := List.getElem?_eq_getElem (length ▸ within : spot < others.length)
          rw [there, Option.map_some, Option.map_some, each spot item _ here there]
  | obj members others names _ each =>
      rw [canonical, canonical]
      refine object_unique _ _ fun name => ?_
      rw [canonical_member, canonical_member]
      have told := names name
      cases here : member? name members with
      | none =>
          rw [here, Option.isSome_none] at told
          have there := Option.isNone_iff_eq_none.mp (Option.isSome_eq_false_iff.mp told.symm)
          rw [there]
      | some value =>
          rw [here, Option.isSome_some] at told
          obtain ⟨found, there⟩ := Option.isSome_iff_exists.mp told.symm
          rw [there, Option.map_some, Option.map_some, each name value found here there]

mutual

theorem same_value_of_canonical : (value other : Json) → value.canonical = other.canonical → SameValue value other
  | .null, other, same => by
    cases other <;> simp only [canonical, object, reduceCtorEq] at same
    exact .null
  | .bool value, other, same => by
    cases other <;> simp only [canonical, object, bool.injEq, reduceCtorEq] at same
    exact same ▸ .bool value
  | .int value, other, same => by
    cases other <;> simp only [canonical, object, int.injEq, reduceCtorEq] at same
    exact same ▸ .int value
  | .str value, other, same => by
    cases other <;> simp only [canonical, object, str.injEq, reduceCtorEq] at same
    exact same ▸ .str value
  | .arr items, other, same => by
    cases other <;> simp only [canonical, object, arr.injEq, reduceCtorEq] at same
    next others =>
      rw [canonical_items_map, canonical_items_map] at same
      refine .arr items others (by simpa using congrArg List.length same) ?_
      intro spot item other here there
      refine items_same_value items item (List.mem_of_getElem? here) other ?_
      have both := congrArg (·[spot]?) same
      simpa [here, there] using both
  | .obj members, other, same => by
    cases other with
    | obj others =>
        rw [canonical, canonical] at same
        have found := member_of_object _ _ same
        simp only [canonical_member] at found
        refine .obj members others ?_ ?_
        · intro name
          have told := congrArg Option.isSome (found name)
          rwa [Option.isSome_map, Option.isSome_map] at told
        · intro name value other here there
          refine members_same_value members (name, value) (member_among name value members here) other ?_
          have both := found name
          rw [here, there] at both
          exact Option.some.inj both
    | _ => simp only [canonical, object, reduceCtorEq] at same

theorem items_same_value : (items : List Json) → ∀ item ∈ items, ∀ other : Json,
    item.canonical = other.canonical → SameValue item other
  | [] => List.forall_mem_nil _
  | item :: rest => List.forall_mem_cons.mpr ⟨same_value_of_canonical item, items_same_value rest⟩

theorem members_same_value : (members : List (String × Json)) → ∀ member ∈ members, ∀ other : Json,
    member.2.canonical = other.canonical → SameValue member.2 other
  | [] => List.forall_mem_nil _
  | (_, value) :: rest => List.forall_mem_cons.mpr ⟨same_value_of_canonical value, members_same_value rest⟩

end

theorem canonical_eq_iff (value other : Json) : value.canonical = other.canonical ↔ SameValue value other :=
  ⟨same_value_of_canonical value other, canonical_of_same_value value other⟩

end Items

end CacheTiers.Json
