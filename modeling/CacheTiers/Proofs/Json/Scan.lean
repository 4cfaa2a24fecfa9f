import CacheTiers.Json.Writer

/-!
Reading the compact text of a JSON value from left to right. Outside of strings it has no backslash, and it has a
colon only behind the quote that ends a name, within some bracket; every bracket is closed. Two readers of one text of
which one starts within a string and the other does not are on opposite sides of every quote, so they never both end
outside. Hence the text of a value never ends in a colon and the text of another one.
-/
namespace CacheTiers.Json

-- Where a reader is, and how many brackets are open; outside of strings, whether the quote of a string has just been
-- read.
inductive Scan where
  | outside (closed : Bool) (depth : Nat)
  | inside (depth : Nat)
  | escaped (depth : Nat)

namespace Scan

def step : Scan → Char → Option Scan
  | outside closed depth, c =>
    if c = '"' then some (inside depth)
    else if c = '\\' then none
    else if c = ':' then (if closed ∧ depth ≠ 0 then some (outside false depth) else none)
    else if c = '[' ∨ c = '\x7b' then some (outside false (depth + 1))
    else if c = ']' ∨ c = '\x7d' then (if depth = 0 then none else some (outside false (depth - 1)))
    else some (outside false depth)
  | inside depth, c =>
    if c = '"' then some (outside true depth) else if c = '\\' then some (escaped depth) else some (inside depth)
  | escaped depth, _ => some (inside depth)

def run : Scan → List Char → Option Scan
  | scan, [] => some scan
  | scan, c :: rest => (scan.step c).bind fun later => run later rest

-- A text that closes `opened` brackets more than it opens, whatever is open before it.
def Closes (opened : Nat) (text : List Char) : Prop :=
  ∀ closed depth, ∃ later, run (outside closed (depth + opened)) text = some (outside later depth)

def Plain (c : Char) : Prop :=
  c ≠ '"' ∧ c ≠ '\\' ∧ c ≠ ':' ∧ c ≠ '[' ∧ c ≠ '\x7b' ∧ c ≠ ']' ∧ c ≠ '\x7d'

instance (c : Char) : Decidable (Plain c) := inferInstanceAs (Decidable (_ ∧ _))

theorem run_append (scan : Scan) (first second : List Char) :
    run scan (first ++ second) = (run scan first).bind fun later => run later second := by
  induction first generalizing scan with
  | nil => rfl
  | cons c rest ih =>
      simp only [List.cons_append, run]
      cases scan.step c with
      | none => rfl
      | some later => exact ih later

theorem step_plain (closed : Bool) (depth : Nat) (c : Char) (plain : Plain c) :
    step (outside closed depth) c = some (outside false depth) := by
  obtain ⟨quote, backslash, colon, bracket, brace, bracketEnd, braceEnd⟩ := plain
  simp [step, quote, backslash, colon, bracket, brace, bracketEnd, braceEnd]

theorem step_inside (depth : Nat) (c : Char) (quote : c ≠ '"') (backslash : c ≠ '\\') :
    step (inside depth) c = some (inside depth) := by
  simp [step, quote, backslash]

theorem step_outside (closed : Bool) (depth : Nat) (c : Char) (scan : Scan) (quote : c ≠ '"')
    (stepped : step (outside closed depth) c = some scan) :
    c ≠ '\\' ∧ ∃ later beneath, scan = outside later beneath := by
  rw [step, if_neg quote] at stepped
  by_cases backslash : c = '\\'
  · simp [backslash] at stepped
  · rw [if_neg backslash] at stepped
    refine ⟨backslash, ?_⟩
    split at stepped
    · split at stepped
      · exact ⟨false, depth, (Option.some.inj stepped).symm⟩
      · cases stepped
    · split at stepped
      · exact ⟨false, depth + 1, (Option.some.inj stepped).symm⟩
      · split at stepped
        · split at stepped
          · cases stepped
          · exact ⟨false, depth - 1, (Option.some.inj stepped).symm⟩
        · exact ⟨false, depth, (Option.some.inj stepped).symm⟩

theorem step_colon (closed : Bool) (depth : Nat) (scan : Scan) (stepped : step (outside closed depth) ':' = some scan) :
    depth ≠ 0 ∧ scan = outside false depth := by
  by_cases allowed : closed ∧ depth ≠ 0
  · refine ⟨allowed.2, ?_⟩
    simpa [step, allowed] using stepped.symm
  · simp [step, allowed] at stepped

theorem closes_append (opened more : Nat) (first second : List Char) (before : Closes opened first)
    (after : Closes more second) : Closes (opened + more) (first ++ second) := by
  intro closed depth
  obtain ⟨middle, reached⟩ := before closed (depth + more)
  obtain ⟨last, ended⟩ := after middle depth
  refine ⟨last, ?_⟩
  rw [run_append, Nat.add_comm opened more, ← Nat.add_assoc, reached]
  exact ended

theorem closes_plain (opened : Nat) (c : Char) (rest : List Char) (plain : Plain c) (closes : Closes opened rest) :
    Closes opened (c :: rest) := by
  intro closed depth
  obtain ⟨last, ended⟩ := closes false depth
  refine ⟨last, ?_⟩
  rw [run, step_plain closed _ c plain]
  exact ended

theorem closes_all_plain (text : List Char) (plain : ∀ c ∈ text, Plain c) : Closes 0 text := by
  induction text with
  | nil => exact fun closed depth => ⟨closed, rfl⟩
  | cons c rest ih =>
      obtain ⟨first, others⟩ := List.forall_mem_cons.mp plain
      exact closes_plain 0 c rest first (ih others)

theorem closes_opened (c : Char) (rest : List Char) (opening : c = '[' ∨ c = '\x7b') (closes : Closes 1 rest) :
    Closes 0 (c :: rest) := by
  intro closed depth
  obtain ⟨last, ended⟩ := closes false depth
  refine ⟨last, ?_⟩
  rcases opening with rfl | rfl
  · exact ended
  · exact ended

theorem closes_end (c : Char) (closing : c = ']' ∨ c = '\x7d') : Closes 1 [c] := by
  intro closed depth
  rcases closing with rfl | rfl
  · exact ⟨false, rfl⟩
  · exact ⟨false, rfl⟩

theorem run_inside (depth : Nat) (text : List Char) (content : ∀ c ∈ text, c ≠ '"' ∧ c ≠ '\\') :
    run (inside depth) text = some (inside depth) := by
  induction text with
  | nil => rfl
  | cons c rest ih =>
      obtain ⟨⟨quote, backslash⟩, others⟩ := List.forall_mem_cons.mp content
      rw [run, step_inside depth c quote backslash]
      exact ih others

theorem hex_digit_content (n : Nat) (bound : n < 16) : hexDigit n ≠ '"' ∧ hexDigit n ≠ '\\' := by
  have each : ∀ n < 16, hexDigit n ≠ '"' ∧ hexDigit n ≠ '\\' := by decide
  exact each n bound

theorem escape_char_content (depth : Nat) (c : Char) : run (inside depth) (escapeChar c) = some (inside depth) := by
  rw [escapeChar]
  iterate 7 (split; · rfl)
  split
  case isTrue control =>
    apply run_inside depth ['0', '0', hexDigit (c.toNat / 16), hexDigit (c.toNat % 16)]
    simp only [List.forall_mem_cons]
    exact ⟨by decide, by decide, hex_digit_content _ (by omega), hex_digit_content _ (by omega),
      List.forall_mem_nil _⟩
  case isFalse =>
    apply run_inside depth [c]
    simp_all

theorem run_content (depth : Nat) (text : List Char) :
    run (inside depth) (text.flatMap escapeChar) = some (inside depth) := by
  induction text with
  | nil => rfl
  | cons c rest ih =>
      rw [List.flatMap_cons, run_append, escape_char_content]
      exact ih

theorem run_string (text : String) (closed : Bool) (depth : Nat) :
    run (outside closed depth) (writeString text) = some (outside true depth) := by
  have content : run (inside depth) (text.toList.flatMap escapeChar ++ ['"']) = some (outside true depth) := by
    rw [run_append, run_content]
    rfl
  exact content

theorem closes_member (name : String) (rest : List Char) (closes : Closes 1 rest) :
    Closes 1 (writeString name ++ ':' :: rest) := by
  intro closed depth
  obtain ⟨last, ended⟩ := closes false depth
  refine ⟨last, ?_⟩
  rw [run_append, run_string]
  exact ended

theorem digit_plain (c : Char) (digit : c.isDigit = true) : Plain c := by
  refine ⟨?_, ?_, ?_, ?_, ?_, ?_, ?_⟩ <;>
    · rintro rfl
      cases digit

theorem closes_digits (n : Nat) : Closes 0 (Nat.toDigits 10 n) :=
  closes_all_plain _ fun c member => digit_plain c (Nat.isDigit_of_mem_toDigits (by decide) (by decide) member)

theorem closes_int (value : Int) : Closes 0 (writeInt value) := by
  cases value with
  | ofNat n => exact closes_digits n
  | negSucc n => exact closes_plain 0 '-' _ (by decide) (closes_digits (n + 1))

mutual

theorem write_closes : (value : Json) → Closes 0 value.write
  | .null => fun _ _ => ⟨false, rfl⟩
  | .bool true => fun _ _ => ⟨false, rfl⟩
  | .bool false => fun _ _ => ⟨false, rfl⟩
  | .int value => closes_int value
  | .str value => fun closed depth => ⟨true, run_string value closed depth⟩
  | .arr [] => closes_opened '[' _ (.inl rfl) (closes_end ']' (.inl rfl))
  | .arr (item :: rest) =>
    closes_opened '[' _ (.inl rfl) (closes_append 0 1 _ _ (write_closes item) (write_items_closes rest))
  | .obj [] => closes_opened '\x7b' _ (.inr rfl) (closes_end '\x7d' (.inr rfl))
  | .obj ((name, value) :: rest) =>
    closes_opened '\x7b' _ (.inr rfl)
      (closes_member name _ (closes_append 0 1 _ _ (write_closes value) (write_members_closes rest)))

theorem write_items_closes : (items : List Json) → Closes 1 (writeItems items)
  | [] => closes_end ']' (.inl rfl)
  | item :: rest =>
    closes_plain 1 ',' _ (by decide) (closes_append 0 1 _ _ (write_closes item) (write_items_closes rest))

theorem write_members_closes : (members : List (String × Json)) → Closes 1 (writeMembers members)
  | [] => closes_end '\x7d' (.inr rfl)
  | (name, value) :: rest =>
    closes_plain 1 ',' _ (by decide)
      (closes_member name _ (closes_append 0 1 _ _ (write_closes value) (write_members_closes rest)))

end

theorem never_both_outside (text : List Char) (closed : Bool) (depth within : Nat) (first second : Scan)
    (out : run (outside closed depth) text = some first) (inner : run (inside within) text = some second) :
    (∃ later beneath other, first = outside later beneath ∧ second = inside other) ∨
      ∃ later beneath other, first = inside other ∧ second = outside later beneath := by
  -- Exactly one of the two readers is within a string, and a quote exchanges them.
  induction text generalizing closed depth within first second with
  | nil =>
      cases out
      cases inner
      exact .inl ⟨closed, depth, within, rfl, rfl⟩
  | cons c rest ih =>
      by_cases quote : c = '"'
      · subst quote
        rcases ih true within depth second first inner out with ⟨later, beneath, other, quoted, unquoted⟩ |
          ⟨later, beneath, other, quoted, unquoted⟩
        · exact .inr ⟨later, beneath, other, unquoted, quoted⟩
        · exact .inl ⟨later, beneath, other, unquoted, quoted⟩
      · rw [run] at out
        cases stepped : step (outside closed depth) c with
        | none => simp [stepped] at out
        | some scan =>
            rw [stepped] at out
            obtain ⟨backslash, later, beneath, rfl⟩ := step_outside closed depth c scan quote stepped
            rw [run, step_inside within c quote backslash] at inner
            exact ih later beneath within first second out inner

theorem write_never_within (value : Json) (within depth : Nat) (later : Bool) :
    run (inside within) value.write ≠ some (outside later depth) := by
  intro ended
  obtain ⟨last, out⟩ := write_closes value false 0
  rcases never_both_outside value.write false _ _ _ _ out ended with ⟨_, _, _, _, impossible⟩ | ⟨_, _, _, impossible, _⟩
  · cases impossible
  · cases impossible

theorem write_not_behind_colon (before : List Char) (value inner : Json) :
    value.write ≠ before ++ ':' :: inner.write := by
  intro same
  obtain ⟨later, read⟩ := write_closes value false 0
  rw [same, run_append] at read
  cases reached : run (outside false 0) before with
  | none => simp [reached] at read
  | some scan =>
      simp only [Nat.add_zero, reached, Option.bind_some, run] at read
      -- Within a string, what follows the colon is no text of its own; outside of strings the colon is within a bracket,
      -- and what follows has to close it.
      cases scan with
      | outside closed depth =>
          cases stepped : step (outside closed depth) ':' with
          | none => simp [stepped] at read
          | some scan =>
              obtain ⟨nested, rfl⟩ := step_colon closed depth scan stepped
              obtain ⟨last, ended⟩ := write_closes inner false depth
              rw [stepped, Option.bind_some, ← Nat.add_zero depth, ended] at read
              simp [nested] at read
      | inside depth => exact write_never_within inner depth 0 later read
      | escaped depth => exact write_never_within inner depth 0 later read

end Scan

end CacheTiers.Json
