import CacheTiers.Proofs.Metrics.Exposition

namespace CacheTiers

namespace Exposition

def backslashes (characters : List Char) : Nat := (characters.flatMap escapeChar).count '\\'

def Token.content : Token → List Char
  | quoted text => text.toList
  | _ => []

def contents (tokens : List Token) : List Char := tokens.flatMap Token.content

def Lexing.backslashes : Lexing → Nat
  | quoted seen => Exposition.backslashes seen
  | escape seen => Exposition.backslashes seen + 1
  | _ => 0

theorem backslashes_append (first second : List Char) :
    backslashes (first ++ second) = backslashes first + backslashes second := by
  rw [backslashes, List.flatMap_append, List.count_append]
  rfl

theorem mark_content (c : Char) (token : Token) (mark : mark? c = some token) : token.content = [] := by
  rw [mark?] at mark
  by_cases opens : c = '\x7b'
  · rw [if_pos opens] at mark
    cases mark
    rfl
  · rw [if_neg opens] at mark
    by_cases closes : c = '\x7d'
    · rw [if_pos closes] at mark
      cases mark
      rfl
    · rw [if_neg closes] at mark
      by_cases equals : c = '='
      · rw [if_pos equals] at mark
        cases mark
        rfl
      · rw [if_neg equals] at mark
        by_cases comma : c = ','
        · rw [if_pos comma] at mark
          cases mark
          rfl
        · rw [if_neg comma] at mark
          cases mark

theorem start_content (c : Char) (told : List Token) (next : Lexing) (started : start c = some (told, next)) :
    contents told = [] ∧ next.backslashes = 0 := by
  rw [start] at started
  by_cases blank : isBlank c = true
  · rw [if_pos blank] at started
    cases started
    exact ⟨rfl, rfl⟩
  · rw [if_neg blank] at started
    by_cases quote : c = '"'
    · rw [if_pos quote] at started
      cases started
      exact ⟨rfl, rfl⟩
    · rw [if_neg quote] at started
      by_cases inside : isWordChar c = true
      · rw [if_pos inside] at started
        cases started
        exact ⟨rfl, rfl⟩
      · rw [if_neg inside] at started
        obtain ⟨token, mark, same⟩ := Option.map_eq_some_iff.mp started
        cases same
        exact ⟨by rw [contents, List.flatMap_singleton, mark_content c token mark], rfl⟩

theorem unescape_backslashes (c meant : Char) (read : unescape? c = some meant) :
    backslashes [meant] = 1 + if c = '\\' then 1 else 0 := by
  rw [unescape?] at read
  by_cases own : c = '\\' ∨ c = '"'
  · rw [if_pos own] at read
    cases read
    rcases own with rfl | rfl
    · rfl
    · rfl
  · rw [if_neg own] at read
    by_cases letter : c = 'n'
    · rw [if_pos letter] at read
      cases read
      subst letter
      rfl
    · rw [if_neg letter] at read
      cases read

-- What the reader holds of values, told or still open, has been paid for with backslashes; one that is still to mean
-- something has been paid ahead.
theorem advance_backslashes (lexing next : Lexing) (c : Char) (told : List Token) (inside : c ≠ '\n')
    (advanced : advance lexing c = some (told, next)) :
    backslashes (contents told) + next.backslashes ≤ lexing.backslashes + if c = '\\' then 1 else 0 := by
  cases lexing with
  | between =>
      obtain ⟨none, plain⟩ := start_content c told next advanced
      rw [none, plain]
      exact Nat.zero_le _
  | word seen =>
      rw [advance] at advanced
      split at advanced
      · cases advanced
        exact Nat.zero_le _
      · obtain ⟨begun, started, same⟩ := Option.map_eq_some_iff.mp advanced
        cases same
        obtain ⟨none, plain⟩ := start_content c begun.1 begun.2 started
        rw [contents, List.flatMap_cons, ← contents, none, plain]
        exact Nat.zero_le _
  | quoted seen =>
      rw [advance] at advanced
      by_cases quote : c = '"'
      · rw [if_pos quote] at advanced
        cases advanced
        simp [contents, Token.content, Lexing.backslashes]
      · rw [if_neg quote] at advanced
        by_cases backslash : c = '\\'
        · rw [if_pos backslash] at advanced
          cases advanced
          simp [contents, backslashes, Lexing.backslashes, backslash]
        · rw [if_neg backslash] at advanced
          cases advanced
          have plain : backslashes [c] = 0 := by simp [backslashes, escapeChar, quote, backslash, inside]
          have none : backslashes (contents []) = 0 := rfl
          rw [none, Lexing.backslashes, backslashes_append, plain, Lexing.backslashes]
          omega
  | escape seen =>
      obtain ⟨meant, read, same⟩ := Option.map_eq_some_iff.mp advanced
      cases same
      have written := unescape_backslashes c meant read
      have none : backslashes (contents []) = 0 := rfl
      rw [none, Lexing.backslashes, backslashes_append, written, Lexing.backslashes]
      omega

theorem tokens_backslashes (lexing : Lexing) (characters : List Char) (tokens : List Token) (whole : '\n' ∉ characters)
    (read : tokensFrom lexing characters = some tokens) :
    backslashes (contents tokens) ≤ lexing.backslashes + characters.count '\\' := by
  induction characters generalizing lexing tokens with
  | nil =>
      cases lexing with
      | between =>
          cases read
          exact Nat.zero_le _
      | word seen =>
          cases read
          exact Nat.zero_le _
      | quoted seen => cases read
      | escape seen => cases read
  | cons c rest ih =>
      obtain ⟨first, others⟩ := not_or.mp (mt List.mem_cons.mpr whole)
      obtain ⟨⟨told, next⟩, advanced, later⟩ := Option.bind_eq_some_iff.mp read
      obtain ⟨more, continued, rfl⟩ := Option.map_eq_some_iff.mp later
      have one := advance_backslashes lexing next c told (Ne.symm first) advanced
      have behind := ih next more others continued
      rw [contents, List.flatMap_append, ← contents, ← contents, backslashes_append, List.count_cons]
      simp only [beq_iff_eq]
      omega

theorem labels_contents (tokens rest : List Token) (labels : List (String × String))
    (read : labels? tokens = some (labels, rest)) : contents tokens = values labels ++ contents rest := by
  fun_induction labels? tokens generalizing labels rest with
  | case1 tokens =>
      cases read
      rfl
  | case2 name value tokens =>
      cases read
      simp [contents, values, Token.content]
  | case3 name value tokens ih =>
      obtain ⟨⟨more, behind⟩, continued, same⟩ := Option.map_eq_some_iff.mp read
      cases same
      have later := ih behind more continued
      simp only [contents, values, List.flatMap_cons, Token.content, List.nil_append, List.append_assoc] at later ⊢
      rw [later]
  | case4 => cases read

theorem valued_labels (metric : String) (labels : List (String × String)) (tokens : List Token) (sample : Sample)
    (read : valued? metric labels tokens = some sample) : sample.labels = labels := by
  unfold valued? at read
  split at read
  · split at read
    · cases read
      rfl
    · cases read
  · split at read
    · cases read
      rfl
    · cases read
  · cases read

theorem sample_backslashes (tokens : List Token) (sample : Sample) (read : sample? tokens = some sample) :
    backslashes (values sample.labels) ≤ backslashes (contents tokens) := by
  unfold sample? at read
  split at read
  · next metric rest =>
      obtain ⟨⟨labels, behind⟩, labelled, valued⟩ := Option.bind_eq_some_iff.mp read
      have parts : contents (.word metric :: .opens :: rest) = values labels ++ contents behind :=
        labels_contents rest behind labels labelled
      rw [valued_labels metric labels behind sample valued, parts, backslashes_append]
      exact Nat.le_add_right _ _
  · next metric rest _ =>
      rw [valued_labels metric [] rest sample read]
      exact Nat.zero_le _
  · cases read

def allValues (samples : List Sample) : List Char := samples.flatMap fun sample => values sample.labels

theorem line_backslashes (line : List Char) (samples : List Sample) (whole : '\n' ∉ line)
    (read : readLine line = some samples) : backslashes (allValues samples) ≤ line.count '\\' := by
  rw [readLine] at read
  split at read
  · cases read
    exact Nat.zero_le _
  · obtain ⟨tokens, lexed, later⟩ := Option.bind_eq_some_iff.mp read
    have within := tokens_backslashes .between line tokens whole lexed
    split at later
    · cases later
      exact Nat.zero_le _
    · obtain ⟨sample, parsed, rfl⟩ := Option.map_eq_some_iff.mp later
      have parts := sample_backslashes tokens sample parsed
      have begun : Lexing.between.backslashes = 0 := rfl
      rw [allValues, List.flatMap_singleton]
      omega

theorem read_backslashes (seen text : List Char) (samples : List Sample) (whole : '\n' ∉ seen)
    (read : readFrom seen text = some samples) : backslashes (allValues samples) ≤ (seen ++ text).count '\\' := by
  induction text generalizing seen samples with
  | nil =>
      rw [readFrom] at read
      split at read
      · cases read
        exact Nat.zero_le _
      · cases read
  | cons c rest ih =>
      rw [readFrom] at read
      split at read
      · obtain ⟨told, line, later⟩ := Option.bind_eq_some_iff.mp read
        obtain ⟨more, continued, rfl⟩ := Option.map_eq_some_iff.mp later
        have first := line_backslashes seen told whole line
        have behind := ih [] more List.not_mem_nil continued
        rw [List.nil_append] at behind
        rw [allValues, List.flatMap_append, ← allValues, ← allValues, backslashes_append, List.count_append, List.count_cons]
        omega
      · next inside =>
          have longer : '\n' ∉ seen ++ [c] := by simp [whole, Ne.symm inside]
          have later := ih (seen ++ [c]) samples longer read
          rwa [List.append_assoc, List.singleton_append] at later

def Plain (text : String) : Prop := ∀ c ∈ text.toList, c ≠ '\\' ∧ c ≠ '"' ∧ c ≠ '\n'

instance (text : String) : Decidable (Plain text) := List.decidableBAll _ text.toList

theorem escape_plain (text : String) (plain : Plain text) : escape text = text := by
  have each : ∀ characters : List Char, (∀ c ∈ characters, c ≠ '\\' ∧ c ≠ '"' ∧ c ≠ '\n') →
      characters.flatMap escapeChar = characters := by
    intro characters all
    induction characters with
    | nil => rfl
    | cons c rest ih =>
        obtain ⟨⟨backslash, quote, feed⟩, others⟩ := List.forall_mem_cons.mp all
        rw [List.flatMap_cons, ih others, escapeChar, if_neg backslash, if_neg quote, if_neg feed, List.singleton_append]
  rw [escape, each text.toList plain, String.ofList_toList]

theorem backslashes_cons (c : Char) (rest : List Char) : backslashes (c :: rest) = backslashes [c] + backslashes rest :=
  backslashes_append [c] rest

theorem char_backslashes (c : Char) :
    (if c = '\\' then 1 else 0) ≤ backslashes [c] ∧
      (backslashes [c] ≤ (if c = '\\' then 1 else 0) → c ≠ '\\' ∧ c ≠ '"' ∧ c ≠ '\n') := by
  by_cases backslash : c = '\\'
  · subst backslash
    decide
  · by_cases quote : c = '"'
    · subst quote
      decide
    · by_cases feed : c = '\n'
      · subst feed
        decide
      · simp [backslash, quote, feed]

theorem count_le_backslashes (characters : List Char) : characters.count '\\' ≤ backslashes characters := by
  induction characters with
  | nil => exact Nat.le_refl 0
  | cons c rest ih =>
      have first := (char_backslashes c).1
      rw [backslashes_cons, List.count_cons]
      simp only [beq_iff_eq]
      omega

theorem plain_of_backslashes (characters : List Char) (few : backslashes characters ≤ characters.count '\\') :
    ∀ c ∈ characters, c ≠ '\\' ∧ c ≠ '"' ∧ c ≠ '\n' := by
  induction characters with
  | nil => exact fun c member => absurd member List.not_mem_nil
  | cons c rest ih =>
      have first := (char_backslashes c).1
      have later := count_le_backslashes rest
      rw [backslashes_cons, List.count_cons] at few
      simp only [beq_iff_eq] at few
      refine List.forall_mem_cons.mpr ⟨(char_backslashes c).2 ?_, ih ?_⟩
      · omega
      · omega

def written (samples : List Sample) : String := String.join (samples.map fun sample => sample.line ++ "\n")

theorem written_plain (samples : List Sample) (plain : ∀ sample ∈ samples, ∀ label ∈ sample.labels, Plain label.2) :
    written samples = expose samples := by
  refine congrArg String.join (List.map_congr_left fun sample member => ?_)
  have same : (sample.labels.map fun label => (label.1, escape label.2)) = sample.labels := by
    conv_rhs => rw [← List.map_id sample.labels]
    exact List.map_congr_left fun label kept => Prod.ext rfl (escape_plain label.2 (plain sample member label kept))
  rw [escaped, same]

theorem written_count (samples : List Sample) (writable : ∀ sample ∈ samples, Writable sample) :
    (written samples).toList.count '\\' = (allValues samples).count '\\' := by
  induction samples with
  | nil => rfl
  | cons sample others ih =>
      obtain ⟨first, more⟩ := List.forall_mem_cons.mp writable
      have text : (written (sample :: others)).toList = sample.line.toList ++ '\n' :: (written others).toList := by
        simp [written, String.join_cons]
      rw [text, List.count_append, List.count_cons_of_ne (by decide), line_count '\\' rfl (by decide) sample first, ih more,
        ← List.count_append]
      rfl

theorem read_written_iff (samples : List Sample) (writable : ∀ sample ∈ samples, Writable sample) :
    read (written samples) = some samples ↔ ∀ sample ∈ samples, ∀ label ∈ sample.labels, Plain label.2 := by
  constructor
  · intro back
    have few := read_backslashes [] _ samples List.not_mem_nil back
    rw [List.nil_append, written_count samples writable] at few
    intro sample member label kept c inside
    have part : c ∈ values sample.labels := List.mem_flatMap.mpr ⟨label, kept, inside⟩
    exact plain_of_backslashes (allValues samples) few c (List.mem_flatMap.mpr ⟨sample, member, part⟩)
  · intro plain
    rw [written_plain samples plain]
    exact read_exposed samples writable

end Exposition

end CacheTiers
