import CacheTiers.Json.Value
import CacheTiers.Proofs.Json.Lexed

namespace CacheTiers.Json

mutual

def tree : Json → Tree
  | null => .null
  | bool value => .bool value
  | int value => .numeral (.ofInt value)
  | str value => .str (pieces value)
  | arr items => .arr (itemTrees items)
  | obj members => .obj (memberTrees members)

def itemTrees : List Json → List Tree
  | [] => []
  | item :: rest => item.tree :: itemTrees rest

def memberTrees : List (String × Json) → List (List Piece × Tree)
  | [] => []
  | (name, value) :: rest => (pieces name, value.tree) :: memberTrees rest

end

section Parsing

theorem tokens_begin (value : Json) (rest : List Token) :
    (value.tokens ++ rest).head? ≠ some .closeBracket := by
  cases value with
  | arr items => cases items <;> simp [tokens]
  | obj members => cases members <;> simp [tokens]
  | _ => simp [tokens]

theorem read_array (fuel : Nat) (tokens : List Token) (opens : tokens.head? ≠ some .closeBracket) :
    readValue (fuel + 1) (.openBracket :: tokens) = do
      let (item, rest) ← readValue fuel tokens
      let (items, rest) ← readItems fuel rest
      return (.arr (item :: items), rest) := by
  cases tokens with
  | nil => rfl
  | cons token rest =>
      cases token with
      | closeBracket => exact absurd rfl opens
      | _ => rfl

mutual

theorem value_parsed : (value : Json) → (fuel : Nat) → (rest : List Token) → value.tokens.length ≤ fuel →
    readValue fuel (value.tokens ++ rest) = some (value.tree, rest)
  | value, 0, rest, enough => by
    cases value with
    | arr items => cases items <;> simp [tokens] at enough
    | obj members => cases members <;> simp [tokens] at enough
    | _ => simp [tokens] at enough
  | .null, _ + 1, _, _ => rfl
  | .bool _, _ + 1, _, _ => rfl
  | .int _, _ + 1, _, _ => rfl
  | .str _, _ + 1, _, _ => rfl
  | .arr [], _ + 1, _, _ => rfl
  | .arr (item :: items), fuel + 1, rest, enough => by
    simp only [tokens, List.length_cons, List.length_append] at enough
    rw [tokens, List.cons_append, List.append_assoc, read_array fuel _ (tokens_begin item _),
      value_parsed item fuel _ (by omega)]
    simp only [Option.bind_eq_bind, Option.bind_some, items_parsed items fuel rest (by omega)]
    rfl
  | .obj [], _ + 1, _, _ => rfl
  | .obj ((name, value) :: members), fuel + 1, rest, enough => by
    simp only [tokens, List.length_cons, List.length_append] at enough
    rw [tokens, List.cons_append, List.cons_append, List.cons_append, List.append_assoc, readValue,
      value_parsed value fuel _ (by omega)]
    simp only [Option.bind_eq_bind, Option.bind_some, members_parsed members fuel rest (by omega)]
    rfl

theorem items_parsed : (items : List Json) → (fuel : Nat) → (rest : List Token) → (itemTokens items).length ≤ fuel →
    readItems fuel (itemTokens items ++ rest) = some (itemTrees items, rest)
  | items, 0, _, enough => by cases items <;> simp [itemTokens] at enough
  | [], _ + 1, _, _ => rfl
  | item :: items, fuel + 1, rest, enough => by
    simp only [itemTokens, List.length_cons, List.length_append] at enough
    rw [itemTokens, List.cons_append, List.append_assoc, readItems, value_parsed item fuel _ (by omega)]
    simp only [Option.bind_eq_bind, Option.bind_some, items_parsed items fuel rest (by omega)]
    rfl

theorem members_parsed : (members : List (String × Json)) → (fuel : Nat) → (rest : List Token) →
    (memberTokens members).length ≤ fuel →
    readMembers fuel (memberTokens members ++ rest) = some (memberTrees members, rest)
  | members, 0, _, enough => by cases members <;> simp [memberTokens] at enough
  | [], _ + 1, _, _ => rfl
  | (name, value) :: members, fuel + 1, rest, enough => by
    simp only [memberTokens, List.length_cons, List.length_append] at enough
    rw [memberTokens, List.cons_append, List.cons_append, List.cons_append, List.append_assoc, readMembers,
      value_parsed value fuel _ (by omega)]
    simp only [Option.bind_eq_bind, Option.bind_some, members_parsed members fuel rest (by omega)]
    rfl

end

theorem tree_of_write (value : Json) : tree? (value.write.map some) = some value.tree := by
  have parsed := value_parsed value (value.tokens.length + 1) [] (by omega)
  rw [List.append_nil] at parsed
  rw [tree?, tokens_of_write]
  simp [parsed]

end Parsing

section Meaning

theorem char_content (c : Char) (rest : List Piece) :
    content? (Piece.ofChar c :: rest) = (content? rest).map (c :: ·) := by
  rw [Piece.ofChar]
  split
  · rw [content?]
  · split
    case isTrue control =>
      have high : isHighSurrogate c.toNat = false := by
        simp [isHighSurrogate]
        omega
      have low : isLowSurrogate c.toNat = false := by
        simp [isLowSurrogate]
        omega
      rw [content?.eq_def]
      simp [high, low]
    case isFalse => rw [content?]

theorem content_of_pieces (text : String) : content? (pieces text) = some text.toList := by
  rw [pieces]
  induction text.toList with
  | nil => rfl
  | cons c rest ih => rw [List.map_cons, char_content, ih, Option.map_some]

theorem pieces_injective (text other : String) (same : pieces text = pieces other) : text = other := by
  have contents := congrArg content? same
  rw [content_of_pieces, content_of_pieces] at contents
  exact String.toList_inj.mp (Option.some.inj contents)

theorem to_int_of_int (value : Int) : (Numeral.ofInt value).toInt? = some value := by
  cases value with
  | ofNat n => rfl
  | negSucc n => simp [Numeral.ofInt, Numeral.toInt?, Int.negSucc_eq]

theorem of_int_injective (value other : Int) (same : Numeral.ofInt value = Numeral.ofInt other) : value = other := by
  have read := congrArg Numeral.toInt? same
  rw [to_int_of_int, to_int_of_int] at read
  exact Option.some.inj read

mutual

theorem tree_injective : (value other : Json) → value.tree = other.tree → value = other
  | .null, other, same => by
    cases other <;> simp only [tree, reduceCtorEq] at same
    rfl
  | .bool value, other, same => by
    cases other <;> simp only [tree, Tree.bool.injEq, reduceCtorEq] at same
    rw [same]
  | .int value, other, same => by
    cases other <;> simp only [tree, Tree.numeral.injEq, reduceCtorEq] at same
    rw [of_int_injective _ _ same]
  | .str value, other, same => by
    cases other <;> simp only [tree, Tree.str.injEq, reduceCtorEq] at same
    rw [pieces_injective _ _ same]
  | .arr items, other, same => by
    cases other <;> simp only [tree, Tree.arr.injEq, reduceCtorEq] at same
    rw [item_trees_injective _ _ same]
  | .obj members, other, same => by
    cases other <;> simp only [tree, Tree.obj.injEq, reduceCtorEq] at same
    rw [member_trees_injective _ _ same]

theorem item_trees_injective : (items others : List Json) → itemTrees items = itemTrees others → items = others
  | [], others, same => by
    cases others with
    | nil => rfl
    | cons other others => simp [itemTrees] at same
  | item :: items, others, same => by
    cases others with
    | nil => simp [itemTrees] at same
    | cons other others =>
        simp only [itemTrees, List.cons.injEq] at same
        rw [tree_injective item other same.1, item_trees_injective items others same.2]

theorem member_trees_injective : (members others : List (String × Json)) →
    memberTrees members = memberTrees others → members = others
  | [], others, same => by
    cases others with
    | nil => rfl
    | cons other others => simp [memberTrees] at same
  | (name, value) :: members, others, same => by
    cases others with
    | nil => simp [memberTrees] at same
    | cons other others =>
        simp only [memberTrees, List.cons.injEq, Prod.mk.injEq] at same
        rw [pieces_injective name other.1 same.1.1, tree_injective value other.2 same.1.2,
          member_trees_injective members others same.2]

end

theorem write_injective (value other : Json) (same : value.write = other.write) : value = other := by
  have trees := tree_of_write value
  rw [same, tree_of_write other] at trees
  exact tree_injective value other (Option.some.inj trees).symm

end Meaning

end CacheTiers.Json
