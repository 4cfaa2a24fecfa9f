import CacheTiers.Json.Token
import CacheTiers.Json.Writer
import Mathlib.Data.List.TakeWhile

namespace CacheTiers.Json

def Piece.ofChar (c : Char) : Piece :=
  if c = '\x08' ∨ c = '\x0c' ∨ c = '\n' ∨ c = '\r' ∨ c = '\t' then .char c
  else if c.toNat < 0x20 then .unit c.toNat
  else .char c

def pieces (text : String) : List Piece := text.toList.map Piece.ofChar

def Numeral.ofInt : Int → Numeral
  | .ofNat n => .integer false n
  | .negSucc n => .integer true (n + 1)

mutual

def tokens : Json → List Token
  | null => [.null]
  | bool value => [.bool value]
  | int value => [.numeral (.ofInt value)]
  | str value => [.str (pieces value)]
  | arr [] => [.openBracket, .closeBracket]
  | arr (item :: rest) => .openBracket :: (item.tokens ++ itemTokens rest)
  | obj [] => [.openBrace, .closeBrace]
  | obj ((name, value) :: rest) =>
    .openBrace :: .str (pieces name) :: .colon :: (value.tokens ++ memberTokens rest)

def itemTokens : List Json → List Token
  | [] => [.closeBracket]
  | item :: rest => .comma :: (item.tokens ++ itemTokens rest)

def memberTokens : List (String × Json) → List Token
  | [] => [.closeBrace]
  | (name, value) :: rest => .comma :: .str (pieces name) :: .colon :: (value.tokens ++ memberTokens rest)

end

theorem tokens_advance (lexing next : Lexing) (unit : Option Char) (told : List Token) (rest : List (Option Char))
    (advanced : advance lexing unit = some (told, next)) :
    tokensFrom lexing (unit :: rest) = (tokensFrom next rest).map (told ++ ·) := by
  rw [tokensFrom, advanced]
  exact Option.map_eq_bind.symm

theorem tokens_silent (lexing next : Lexing) (unit : Option Char) (rest : List (Option Char))
    (advanced : advance lexing unit = some ([], next)) : tokensFrom lexing (unit :: rest) = tokensFrom next rest := by
  rw [tokens_advance lexing next unit [] rest advanced]
  exact Option.map_id'

def IsDelimiter (c : Char) : Prop := c = ',' ∨ c = ']' ∨ c = '\x7d'

def Delimits (units : List (Option Char)) : Prop := units = [] ∨ ∃ c rest, units = some c :: rest ∧ IsDelimiter c

theorem delimits_head (c : Char) (rest : List (Option Char)) (delimiter : IsDelimiter c) : Delimits (some c :: rest) :=
  .inr ⟨c, rest, rfl, delimiter⟩

-- The token that is being read ends where the text does, or with a delimiter, which is read as if nothing had been
-- pending.
theorem pending_ends (lexing : Lexing) (token : Token) (rest : List (Option Char))
    (finished : finishLexing lexing = some [token])
    (handed : ∀ c, IsDelimiter c → advance lexing (some c) = (start c).map fun begun => (token :: begun.1, begun.2))
    (delimits : Delimits rest) : tokensFrom lexing rest = (tokensFrom .between rest).map (token :: ·) := by
  rcases delimits with rfl | ⟨c, rest, rfl, delimiter⟩
  · rw [tokensFrom, finished]
    rfl
  · obtain ⟨mark, marks⟩ : ∃ mark, start c = some ([mark], .between) := by
      rcases delimiter with rfl | rfl | rfl <;> exact ⟨_, rfl⟩
    have advanced := handed c delimiter
    rw [marks] at advanced
    have started := tokens_advance .between .between (some c) [mark] rest marks
    rw [tokens_advance lexing .between (some c) [token, mark] rest advanced, started, Option.map_map]
    rfl

theorem word_ends (seen : List Char) (token : Token) (rest : List (Option Char)) (read : word? seen.reverse = some token)
    (delimits : Delimits rest) : tokensFrom (.word seen) rest = (tokensFrom .between rest).map (token :: ·) := by
  apply pending_ends (.word seen) token rest _ _ delimits
  · simp [finishLexing, read]
  · intro c delimiter
    rcases delimiter with rfl | rfl | rfl <;> simp only [advance, read] <;> rfl

theorem number_ends (seen : List Char) (value : Numeral) (rest : List (Option Char))
    (read : numeral? seen.reverse = some value) (delimits : Delimits rest) :
    tokensFrom (.number seen) rest = (tokensFrom .between rest).map (.numeral value :: ·) := by
  apply pending_ends (.number seen) (.numeral value) rest _ _ delimits
  · simp [finishLexing, read]
  · intro c delimiter
    rcases delimiter with rfl | rfl | rfl <;> simp only [advance, read] <;> rfl

section Numbers

theorem digit_of_is_digit (c : Char) (digit : c.isDigit = true) : digit? c = some (c.toNat - 48) := by
  rw [digit?, if_pos]
  simpa [Char.isDigit, Char.le_def] using digit

theorem digits_value (digits : List Char) (start : Nat) (all : ∀ c ∈ digits, c.isDigit = true) :
    digits.foldl (fun value c => value * 10 + (digit? c).getD 0) start = Nat.ofDigitChars 10 digits start := by
  induction digits generalizing start with
  | nil => rfl
  | cons c rest ih =>
      obtain ⟨first, others⟩ := List.forall_mem_cons.mp all
      rw [List.foldl_cons, Nat.ofDigitChars_cons, ih _ others, digit_of_is_digit c first, Nat.mul_comm]
      rfl

theorem to_digits_digits (n : Nat) : ∀ c ∈ Nat.toDigits 10 n, c.isDigit = true :=
  fun _ member => Nat.isDigit_of_mem_toDigits (by decide) (by decide) member

theorem digits_value_to_digits (n : Nat) : digitsValue (Nat.toDigits 10 n) = n := by
  rw [digitsValue, digits_value _ 0 (to_digits_digits n)]
  exact Nat.ofDigitChars_toDigits (by decide) (by decide)

theorem to_digits_head (n : Nat) (positive : n ≠ 0) : (Nat.toDigits 10 n).head? ≠ some '0' := by
  induction n using Nat.strongRecOn with
  | ind n ih =>
      by_cases small : n < 10
      · rw [Nat.toDigits_of_lt_base small]
        have each : ∀ n < 10, n ≠ 0 → [n.digitChar].head? ≠ some '0' := by decide
        exact each n small positive
      · rw [Nat.toDigits_of_base_le (by decide) (by omega), List.head?_append]
        have first := ih (n / 10) (by omega) (by omega)
        cases front : (Nat.toDigits 10 (n / 10)).head? with
        | none => simp [Nat.toDigits_ne_nil] at front
        | some c => simpa [front] using first

theorem numeral_of_digits (negative : Bool) (n : Nat) :
    numeralOf negative (Nat.toDigits 10 n) = some (.integer negative n) := by
  have all : ∀ c ∈ Nat.toDigits 10 n, isDigit c = true := by
    intro c member
    rw [isDigit, digit_of_is_digit c (to_digits_digits n c member)]
    rfl
  have plain : ((Nat.toDigits 10 n).isEmpty ||
      ((Nat.toDigits 10 n).length > 1 && (Nat.toDigits 10 n).head? = some '0')) = false := by
    by_cases zero : n = 0
    · subst zero
      rfl
    · simp [Nat.toDigits_ne_nil, to_digits_head n zero]
  rw [numeralOf, List.takeWhile_eq_self_iff.mpr all, List.dropWhile_eq_nil_iff.mpr all]
  simp only [plain, Bool.false_eq_true, if_false, digits_value_to_digits]

theorem numeral_of_int (value : Int) : numeral? (writeInt value) = some (.ofInt value) := by
  cases value with
  | negSucc n => exact numeral_of_digits true (n + 1)
  | ofNat n =>
      rw [writeInt, numeral?]
      · exact numeral_of_digits false n
      · intro body same
        have digit := to_digits_digits n '-' (by rw [same]; exact List.mem_cons_self)
        cases digit

theorem numeral_char_of_digit (c : Char) (digit : c.isDigit = true) : isNumeralChar c = true := by
  simp [isNumeralChar, isDigit, digit_of_is_digit c digit]

theorem number_goes_on (seen digits : List Char) (rest : List (Option Char)) (all : ∀ c ∈ digits, c.isDigit = true) :
    tokensFrom (.number seen) (digits.map some ++ rest) = tokensFrom (.number (digits.reverse ++ seen)) rest := by
  induction digits generalizing seen with
  | nil => rfl
  | cons c digits ih =>
      obtain ⟨first, others⟩ := List.forall_mem_cons.mp all
      have advanced : advance (.number seen) (some c) = some ([], .number (c :: seen)) := by
        rw [advance, if_pos (numeral_char_of_digit c first)]
      rw [List.map_cons, List.cons_append, tokens_silent _ _ _ _ advanced, ih _ others]
      simp

theorem start_number (c : Char) (begins : c.isDigit = true ∨ c = '-') : start c = some ([], .number [c]) := by
  have digit : (isDigit c || c = '-') = true := by
    rcases begins with digit | rfl
    · simp [isDigit, digit_of_is_digit c digit]
    · rfl
  have other (d : Char) (apart : d.isDigit = false ∧ d ≠ '-') : c ≠ d := by
    rintro rfl
    rcases begins with digit | minus
    · exact absurd digit (by simp [apart.1])
    · exact apart.2 minus
  have blank : isBlank c = false := by
    simp [isBlank, other ' ' (by decide), other '\n' (by decide), other '\t' (by decide), other '\r' (by decide)]
  rw [start, blank, if_neg (by decide), if_neg (other '"' (by decide)), if_pos digit]

theorem int_lexed (value : Int) (rest : List (Option Char)) (delimits : Delimits rest) :
    tokensFrom .between ((writeInt value).map some ++ rest) =
      (tokensFrom .between rest).map (.numeral (.ofInt value) :: ·) := by
  obtain ⟨c, digits, written, begins, all⟩ : ∃ c digits, writeInt value = c :: digits ∧
      (c.isDigit = true ∨ c = '-') ∧ ∀ c ∈ digits, c.isDigit = true := by
    cases value with
    | negSucc n => exact ⟨'-', _, rfl, .inr rfl, to_digits_digits (n + 1)⟩
    | ofNat n =>
        cases digits : Nat.toDigits 10 n with
        | nil => exact absurd digits Nat.toDigits_ne_nil
        | cons c digits' =>
            have all := to_digits_digits n
            rw [digits] at all
            obtain ⟨first, others⟩ := List.forall_mem_cons.mp all
            exact ⟨c, digits', digits, .inl first, others⟩
  have read := numeral_of_int value
  rw [written] at read ⊢
  have started := tokens_silent .between (.number [c]) (some c) (digits.map some ++ rest) (start_number c begins)
  rw [List.map_cons, List.cons_append, started, number_goes_on _ _ _ all]
  exact number_ends _ _ _ (by simpa using read) delimits

end Numbers

section Strings

theorem hex_digit_read (n : Nat) (bound : n < 16) : hexDigit? (hexDigit n) = some n := by
  have each : ∀ n < 16, hexDigit? (hexDigit n) = some n := by decide
  exact each n bound

theorem code_lexed (n : Nat) (seen : List Piece) (rest : List (Option Char)) (bound : n < 0x20) :
    tokensFrom (.content seen)
        (['\\', 'u', '0', '0', hexDigit (n / 16), hexDigit (n % 16)].map some ++ rest) =
      tokensFrom (.content (.unit n :: seen)) rest := by
  have high := hex_digit_read (n / 16) (by omega)
  have low := hex_digit_read (n % 16) (by omega)
  have zero : hexDigit? '0' = some 0 := rfl
  have whole : n / 16 * 16 + n % 16 = n := Nat.div_add_mod' n 16
  simp only [List.map_cons, List.map_nil, List.cons_append, List.nil_append]
  rw [tokens_silent _ (.escape seen) _ _ rfl, tokens_silent _ (.hex seen 3 0) _ _ rfl,
    tokens_silent _ (.hex seen 2 0) _ _ rfl, tokens_silent _ (.hex seen 1 0) _ _ rfl,
    tokens_silent _ (.hex seen 0 (n / 16)) _ _ (by simp [advance, high]),
    tokens_silent _ (.content (.unit n :: seen)) _ _ (by simp [advance, low, whole])]

theorem char_lexed (c : Char) (seen : List Piece) (rest : List (Option Char)) :
    tokensFrom (.content seen) ((escapeChar c).map some ++ rest) =
      tokensFrom (.content (Piece.ofChar c :: seen)) rest := by
  have short (letter : Char) (lexing : Lexing)
      (escaped : advance (.escape seen) (some letter) = some ([], lexing)) :
      tokensFrom (.content seen) (['\\', letter].map some ++ rest) = tokensFrom lexing rest := by
    rw [List.map_cons, List.cons_append, tokens_silent _ (.escape seen) _ _ rfl, List.map_singleton,
      List.singleton_append, tokens_silent _ _ _ _ escaped]
  rw [escapeChar]
  iterate 7
    split
    · next same =>
        subst same
        exact short _ _ rfl
  split
  case isTrue control =>
    rw [Piece.ofChar, if_neg (by simp_all), if_pos control]
    exact code_lexed c.toNat seen rest control
  case isFalse quote backslash _ _ _ _ _ plain =>
    rw [Piece.ofChar, if_neg (by simp_all), if_neg plain]
    apply tokens_silent
    simp [advance, quote, backslash, plain]

theorem content_lexed (text : List Char) (seen : List Piece) (rest : List (Option Char)) :
    tokensFrom (.content seen) ((text.flatMap escapeChar).map some ++ rest) =
      tokensFrom (.content ((text.map Piece.ofChar).reverse ++ seen)) rest := by
  induction text generalizing seen with
  | nil => rfl
  | cons c text ih =>
      rw [List.flatMap_cons, List.map_append, List.append_assoc, char_lexed, ih]
      simp

theorem string_lexed (text : String) (rest : List (Option Char)) :
    tokensFrom .between ((writeString text).map some ++ rest) =
      (tokensFrom .between rest).map (.str (pieces text) :: ·) := by
  rw [writeString, List.map_cons, List.cons_append, tokens_silent _ (.content []) _ _ rfl, List.map_append,
    List.append_assoc, content_lexed, List.append_nil, List.map_singleton, List.singleton_append,
    tokens_advance _ .between _ _ rest rfl, List.reverse_reverse]
  rfl

end Strings

theorem mark_lexed (c : Char) (token : Token) (rest : List (Option Char)) (marks : start c = some ([token], .between)) :
    tokensFrom .between (some c :: rest) = (tokensFrom .between rest).map (token :: ·) :=
  tokens_advance .between .between (some c) [token] rest marks

theorem word_lexed (token : Token) (c : Char) (word : List Char) (rest : List (Option Char))
    (begins : start c = some ([], .word [c])) (letters : word.all isWordChar = true)
    (read : word? (c :: word) = some token) (delimits : Delimits rest) :
    tokensFrom .between ((c :: word).map some ++ rest) = (tokensFrom .between rest).map (token :: ·) := by
  have onward (seen more : List Char) (letters : more.all isWordChar = true) :
      tokensFrom (.word seen) (more.map some ++ rest) = tokensFrom (.word (more.reverse ++ seen)) rest := by
    induction more generalizing seen with
    | nil => rfl
    | cons c more ih =>
        rw [List.all_cons, Bool.and_eq_true] at letters
        obtain ⟨first, others⟩ := letters
        have advanced : advance (.word seen) (some c) = some ([], .word (c :: seen)) := by
          rw [advance, if_pos first]
        rw [List.map_cons, List.cons_append, tokens_silent _ _ _ _ advanced, ih _ others]
        simp
  rw [List.map_cons, List.cons_append, tokens_silent .between (.word [c]) (some c) _ begins, onward _ _ letters]
  exact word_ends _ _ _ (by simpa using read) delimits

theorem items_delimit (items : List Json) (rest : List (Option Char)) :
    Delimits ((writeItems items).map some ++ rest) := by
  cases items with
  | nil => exact delimits_head ']' _ (.inr (.inl rfl))
  | cons item items => exact delimits_head ',' _ (.inl rfl)

theorem members_delimit (members : List (String × Json)) (rest : List (Option Char)) :
    Delimits ((writeMembers members).map some ++ rest) := by
  cases members with
  | nil => exact delimits_head '\x7d' _ (.inr (.inr rfl))
  | cons member members => exact delimits_head ',' _ (.inl rfl)

mutual

theorem write_lexed : (value : Json) → (rest : List (Option Char)) → Delimits rest →
    tokensFrom .between (value.write.map some ++ rest) = (tokensFrom .between rest).map (value.tokens ++ ·)
  | .null, rest, delimits => word_lexed .null 'n' ['u', 'l', 'l'] rest rfl rfl rfl delimits
  | .bool true, rest, delimits => word_lexed (.bool true) 't' ['r', 'u', 'e'] rest rfl rfl rfl delimits
  | .bool false, rest, delimits => word_lexed (.bool false) 'f' ['a', 'l', 's', 'e'] rest rfl rfl rfl delimits
  | .int value, rest, delimits => int_lexed value rest delimits
  | .str value, rest, _ => string_lexed value rest
  | .arr [], rest, _ => by
    rw [write, List.map_cons, List.cons_append, mark_lexed _ .openBracket _ rfl, List.map_singleton,
      List.singleton_append, mark_lexed _ .closeBracket _ rfl, Option.map_map]
    rfl
  | .arr (item :: items), rest, _ => by
    rw [write, List.map_cons, List.cons_append, mark_lexed _ .openBracket _ rfl, List.map_append, List.append_assoc,
      write_lexed item _ (items_delimit items rest), items_lexed items rest, Option.map_map, Option.map_map]
    simp [tokens, Function.comp_def]
  | .obj [], rest, _ => by
    rw [write, List.map_cons, List.cons_append, mark_lexed _ .openBrace _ rfl, List.map_singleton,
      List.singleton_append, mark_lexed _ .closeBrace _ rfl, Option.map_map]
    rfl
  | .obj ((name, value) :: members), rest, _ => by
    rw [write, List.map_cons, List.cons_append, mark_lexed _ .openBrace _ rfl, List.map_append, List.append_assoc,
      string_lexed, List.map_cons, List.cons_append, mark_lexed _ .colon _ rfl, List.map_append, List.append_assoc,
      write_lexed value _ (members_delimit members rest), members_lexed members rest]
    simp [tokens, Option.map_map, Function.comp_def]

theorem items_lexed : (items : List Json) → (rest : List (Option Char)) →
    tokensFrom .between ((writeItems items).map some ++ rest) = (tokensFrom .between rest).map (itemTokens items ++ ·)
  | [], rest => mark_lexed ']' .closeBracket rest rfl
  | item :: items, rest => by
    rw [writeItems, List.map_cons, List.cons_append, mark_lexed _ .comma _ rfl, List.map_append, List.append_assoc,
      write_lexed item _ (items_delimit items rest), items_lexed items rest]
    simp [itemTokens, Option.map_map, Function.comp_def]

theorem members_lexed : (members : List (String × Json)) → (rest : List (Option Char)) →
    tokensFrom .between ((writeMembers members).map some ++ rest) =
      (tokensFrom .between rest).map (memberTokens members ++ ·)
  | [], rest => mark_lexed '\x7d' .closeBrace rest rfl
  | (name, value) :: members, rest => by
    rw [writeMembers, List.map_cons, List.cons_append, mark_lexed _ .comma _ rfl, List.map_append, List.append_assoc,
      string_lexed, List.map_cons, List.cons_append, mark_lexed _ .colon _ rfl, List.map_append, List.append_assoc,
      write_lexed value _ (members_delimit members rest), members_lexed members rest]
    simp [memberTokens, Option.map_map, Function.comp_def]

end

theorem tokens_of_write (value : Json) : tokens? (value.write.map some) = some value.tokens := by
  have lexed := write_lexed value [] (.inl rfl)
  rw [List.append_nil] at lexed
  rw [tokens?, lexed]
  simp [tokensFrom, finishLexing]

end CacheTiers.Json
