import CacheTiers.Metrics.Text
import Mathlib.Data.List.Count

namespace CacheTiers

namespace Exposition

inductive Token where
  | word (text : String)
  | quoted (text : String)
  | opens
  | closes
  | equals
  | comma
deriving DecidableEq

inductive Lexing where
  | between
  | word (seen : List Char)
  | quoted (seen : List Char)
  | escape (seen : List Char)

def isBlank (c : Char) : Bool := c = ' ' || c = '\t'

def isLabelChar (c : Char) : Bool := c.isAlphanum || c = '_'

def isMetricChar (c : Char) : Bool := isLabelChar c || c = ':'

def isWordChar (c : Char) : Bool := isMetricChar c || c = '.' || c = '+' || c = '-'

def mark? (c : Char) : Option Token :=
  if c = '\x7b' then some .opens
  else if c = '\x7d' then some .closes
  else if c = '=' then some .equals
  else if c = ',' then some .comma
  else none

def start (c : Char) : Option (List Token × Lexing) :=
  if isBlank c then some ([], .between)
  else if c = '"' then some ([], .quoted [])
  else if isWordChar c then some ([], .word [c])
  else (mark? c).map fun token => ([token], .between)

def unescape? (c : Char) : Option Char :=
  if c = '\\' ∨ c = '"' then some c else if c = 'n' then some '\n' else none

def advance : Lexing → Char → Option (List Token × Lexing)
  | .between, c => start c
  | .word seen, c =>
    if isWordChar c then some ([], .word (seen ++ [c]))
    else (start c).map fun begun => (.word (String.ofList seen) :: begun.1, begun.2)
  | .quoted seen, c =>
    if c = '"' then some ([.quoted (String.ofList seen)], .between)
    else if c = '\\' then some ([], .escape seen)
    else some ([], .quoted (seen ++ [c]))
  | .escape seen, c => (unescape? c).map fun meant => ([], .quoted (seen ++ [meant]))

def finish : Lexing → Option (List Token)
  | .between => some []
  | .word seen => some [.word (String.ofList seen)]
  | _ => none

def tokensFrom (lexing : Lexing) : List Char → Option (List Token)
  | [] => finish lexing
  | c :: rest => (advance lexing c).bind fun step => (tokensFrom step.2 rest).map (step.1 ++ ·)

-- The labels up to the brace that closes them, and what stands behind it; a comma may stand behind the last one too.
def labels? : List Token → Option (List (String × String) × List Token)
  | .closes :: rest => some ([], rest)
  | .word name :: .equals :: .quoted value :: .closes :: rest => some ([(name, value)], rest)
  | .word name :: .equals :: .quoted value :: .comma :: rest =>
    (labels? rest).map fun read => ((name, value) :: read.1, read.2)
  | _ => none

def isName (isPart : Char → Bool) (name : String) : Bool :=
  name.toList.all isPart && name.toList.head?.any fun c => !c.isDigit

def isLabelName : String → Bool := isName isLabelChar

def isMetricName : String → Bool := isName isMetricChar

def unsigned : List Char → List Char
  | '-' :: rest => rest
  | '+' :: rest => rest
  | characters => characters

def isInteger (characters : List Char) : Bool :=
  !(unsigned characters).isEmpty && (unsigned characters).all Char.isDigit

def isExponent : List Char → Bool
  | [] => true
  | c :: rest => c.toLower = 'e' && isInteger rest

def isDecimal (characters : List Char) : Bool :=
  let whole := characters.takeWhile Char.isDigit
  match characters.dropWhile Char.isDigit with
  | '.' :: rest => !(whole ++ rest.takeWhile Char.isDigit).isEmpty && isExponent (rest.dropWhile Char.isDigit)
  | rest => !whole.isEmpty && isExponent rest

def isNumber (text : String) : Bool :=
  let size := unsigned text.toList
  isDecimal size || (String.ofList (size.map Char.toLower)) ∈ ["inf", "infinity", "nan"]

structure Sound (sample : Sample) : Prop where
  metric : isMetricName sample.metric = true
  labels : ∀ label ∈ sample.labels, isLabelName label.1 = true
  distinct : (sample.labels.map Prod.fst).Nodup
  value : isNumber sample.value = true

instance (sample : Sample) : Decidable (Sound sample) :=
  decidable_of_iff (isMetricName sample.metric = true ∧ (∀ label ∈ sample.labels, isLabelName label.1 = true) ∧
      (sample.labels.map Prod.fst).Nodup ∧ isNumber sample.value = true)
    ⟨fun all => ⟨all.1, all.2.1, all.2.2.1, all.2.2.2⟩,
      fun sound => ⟨sound.metric, sound.labels, sound.distinct, sound.value⟩⟩

def valued? (metric : String) (labels : List (String × String)) : List Token → Option Sample
  | [.word value] => if Sound ⟨metric, labels, value⟩ then some ⟨metric, labels, value⟩ else none
  | [.word value, .word time] =>
    if Sound ⟨metric, labels, value⟩ ∧ isInteger time.toList = true then some ⟨metric, labels, value⟩ else none
  | _ => none

def sample? : List Token → Option Sample
  | .word metric :: .opens :: rest => (labels? rest).bind fun read => valued? metric read.1 read.2
  | .word metric :: rest => valued? metric [] rest
  | _ => none

def readLine (line : List Char) : Option (List Sample) :=
  if (line.dropWhile isBlank).head? = some '#' then some []
  else (tokensFrom .between line).bind fun tokens => if tokens = [] then some [] else (sample? tokens).map ([·])

-- Every line ends with a line feed; `seen` has been read of the first one.
def readFrom (seen : List Char) : List Char → Option (List Sample)
  | [] => if seen = [] then some [] else none
  | c :: rest =>
    if c = '\n' then (readLine seen).bind fun told => (readFrom [] rest).map (told ++ ·)
    else readFrom (seen ++ [c]) rest

def read (text : String) : Option (List Sample) := readFrom [] text.toList

def escapeChar (c : Char) : List Char :=
  if c = '\\' then ['\\', '\\'] else if c = '"' then ['\\', '"'] else if c = '\n' then ['\\', 'n'] else [c]

def escape (text : String) : String := String.ofList (text.toList.flatMap escapeChar)

def escaped (sample : Sample) : Sample :=
  { sample with labels := sample.labels.map fun label => (label.1, escape label.2) }

def expose (samples : List Sample) : String := String.join (samples.map fun sample => (escaped sample).line ++ "\n")

theorem tokens_advance (lexing next : Lexing) (c : Char) (told : List Token) (rest : List Char)
    (advanced : advance lexing c = some (told, next)) :
    tokensFrom lexing (c :: rest) = (tokensFrom next rest).map (told ++ ·) := by
  rw [tokensFrom, advanced]
  rfl

theorem tokens_silent (lexing next : Lexing) (c : Char) (rest : List Char) (advanced : advance lexing c = some ([], next)) :
    tokensFrom lexing (c :: rest) = tokensFrom next rest := by
  rw [tokens_advance lexing next c [] rest advanced]
  exact Option.map_id'

def Ends (rest : List Char) : Prop := rest.head?.all (fun c => !isWordChar c) = true

theorem ends_at (c : Char) (rest : List Char) (outside : isWordChar c = false) : Ends (c :: rest) := by
  simp [Ends, outside]

theorem word_ends (seen rest : List Char) (ends : Ends rest) :
    tokensFrom (.word seen) rest = (tokensFrom .between rest).map (.word (String.ofList seen) :: ·) := by
  cases rest with
  | nil => rfl
  | cons c rest =>
      have outside : ¬ isWordChar c = true := by simpa [Ends] using ends
      rw [tokensFrom, tokensFrom, advance, advance, if_neg outside]
      cases start c with
      | none => rfl
      | some begun => simp [Option.map_map, Function.comp_def]

theorem word_goes_on (seen characters rest : List Char) (all : ∀ c ∈ characters, isWordChar c = true) :
    tokensFrom (.word seen) (characters ++ rest) = tokensFrom (.word (seen ++ characters)) rest := by
  induction characters generalizing seen with
  | nil => rw [List.append_nil, List.nil_append]
  | cons c characters ih =>
      obtain ⟨first, others⟩ := List.forall_mem_cons.mp all
      have kept : advance (.word seen) c = some ([], .word (seen ++ [c])) := by rw [advance, if_pos first]
      rw [List.cons_append, tokens_silent _ _ c _ kept, ih _ others, List.append_assoc, List.singleton_append]

structure Worded (text : String) : Prop where
  nonempty : text ≠ ""
  characters : text.toList.all isWordChar = true

theorem word_char_shows (c : Char) (inside : isWordChar c = true) : isBlank c = false := by
  rw [← Bool.not_eq_true]
  intro blank
  simp only [isBlank, Bool.or_eq_true, decide_eq_true_eq] at blank
  rcases blank with rfl | rfl <;> cases inside

theorem word_char_begins (c : Char) (inside : isWordChar c = true) : start c = some ([], .word [c]) := by
  have quote : c ≠ '"' := by
    rintro rfl
    cases inside
  rw [start, if_neg (by simp [word_char_shows c inside]), if_neg quote, if_pos inside]

theorem tokens_of_word (text : String) (worded : Worded text) (rest : List Char) (ends : Ends rest) :
    tokensFrom .between (text.toList ++ rest) = (tokensFrom .between rest).map (.word text :: ·) := by
  obtain ⟨c, characters, same⟩ := List.exists_cons_of_ne_nil (mt String.toList_eq_nil_iff.mp worded.nonempty)
  have all := List.all_eq_true.mp worded.characters
  rw [same] at all
  obtain ⟨first, others⟩ := List.forall_mem_cons.mp all
  rw [same, List.cons_append, tokens_silent .between (.word [c]) c _ (word_char_begins c first),
    word_goes_on _ _ _ others, List.singleton_append, ← same, word_ends _ _ ends, String.ofList_toList]

theorem escape_char_read (seen rest : List Char) (c : Char) :
    tokensFrom (.quoted seen) (escapeChar c ++ rest) = tokensFrom (.quoted (seen ++ [c])) rest := by
  have escaped (letter : Char) (meant : unescape? letter = some c) :
      tokensFrom (.quoted seen) ('\\' :: letter :: rest) = tokensFrom (.quoted (seen ++ [c])) rest := by
    have back : advance (.escape seen) letter = some ([], .quoted (seen ++ [c])) := by rw [advance, meant, Option.map_some]
    rw [tokens_silent (.quoted seen) (.escape seen) '\\' _ rfl, tokens_silent _ _ letter _ back]
  rw [escapeChar]
  by_cases backslash : c = '\\'
  · subst backslash
    exact escaped '\\' rfl
  · rw [if_neg backslash]
    by_cases quote : c = '"'
    · subst quote
      exact escaped '"' rfl
    · rw [if_neg quote]
      by_cases feed : c = '\n'
      · subst feed
        exact escaped 'n' rfl
      · rw [if_neg feed]
        exact tokens_silent _ _ c rest (by rw [advance, if_neg quote, if_neg backslash])

theorem escape_read (seen characters rest : List Char) :
    tokensFrom (.quoted seen) (characters.flatMap escapeChar ++ '"' :: rest) =
      (tokensFrom .between rest).map (.quoted (String.ofList (seen ++ characters)) :: ·) := by
  induction characters generalizing seen with
  | nil =>
      rw [List.flatMap_nil, List.nil_append, List.append_nil]
      exact tokens_advance _ .between '"' [.quoted (String.ofList seen)] rest rfl
  | cons c characters ih =>
      rw [List.flatMap_cons, List.append_assoc, escape_char_read, ih, List.append_assoc, List.singleton_append]

def labelTokens : List (String × String) → List Token
  | [] => [.closes]
  | [label] => [.word label.1, .equals, .quoted label.2, .closes]
  | label :: rest => .word label.1 :: .equals :: .quoted label.2 :: .comma :: labelTokens rest

theorem labels_of_tokens (labels : List (String × String)) (rest : List Token) :
    labels? (labelTokens labels ++ rest) = some (labels, rest) := by
  induction labels with
  | nil => rfl
  | cons label others ih =>
      cases others with
      | nil => rfl
      | cons other others =>
          show (labels? (labelTokens (other :: others) ++ rest)).map _ = _
          rw [ih]
          rfl

def labelText (label : String × String) : String := Sample.label (label.1, escape label.2)

theorem tokens_of_label (label : String × String) (name : Worded label.1) (rest : List Char) :
    tokensFrom .between ((labelText label).toList ++ rest) =
      (tokensFrom .between rest).map ([.word label.1, .equals, .quoted label.2] ++ ·) := by
  have text : (labelText label).toList ++ rest =
      label.1.toList ++ '=' :: '"' :: (label.2.toList.flatMap escapeChar ++ '"' :: rest) := by
    simp [labelText, Sample.label, escape]
  rw [text, tokens_of_word label.1 name _ (ends_at '=' _ rfl), tokens_advance .between .between '=' [.equals] _ rfl,
    tokens_silent .between (.quoted []) '"' _ rfl, escape_read, List.nil_append, String.ofList_toList]
  simp [Option.map_map, Function.comp_def]

theorem tokens_of_labels (labels : List (String × String)) (names : ∀ label ∈ labels, Worded label.1) (rest : List Char) :
    tokensFrom .between ((", ".intercalate (labels.map labelText)).toList ++ '\x7d' :: rest) =
      (tokensFrom .between rest).map (labelTokens labels ++ ·) := by
  induction labels with
  | nil => exact tokens_advance .between .between '\x7d' [.closes] rest rfl
  | cons label others ih =>
      obtain ⟨name, more⟩ := List.forall_mem_cons.mp names
      cases others with
      | nil =>
          rw [List.map_singleton, String.intercalate_singleton, tokens_of_label label name,
            tokens_advance .between .between '\x7d' [.closes] rest rfl, Option.map_map]
          rfl
      | cons other others =>
          have text : (", ".intercalate ((label :: other :: others).map labelText)).toList ++ '\x7d' :: rest =
              (labelText label).toList ++
                ',' :: ' ' :: ((", ".intercalate ((other :: others).map labelText)).toList ++ '\x7d' :: rest) := by
            simp [String.intercalate_cons_cons]
          rw [text, tokens_of_label label name, tokens_advance .between .between ',' [.comma] _ rfl,
            tokens_silent .between .between ' ' _ rfl, ih more, Option.map_map, Option.map_map]
          rfl

structure Writable (sample : Sample) : Prop where
  sound : Sound sample
  value : Worded sample.value

theorem name_worded (isPart : Char → Bool) (part : ∀ c, isPart c = true → isWordChar c = true) (name : String)
    (named : isName isPart name = true) : Worded name := by
  obtain ⟨parts, first⟩ := Bool.and_eq_true_iff.mp named
  refine ⟨?_, List.all_eq_true.mpr fun c member => part c (List.all_eq_true.mp parts c member)⟩
  rintro rfl
  cases first

theorem metric_worded (name : String) (named : isMetricName name = true) : Worded name :=
  name_worded isMetricChar (fun c part => by simp [isWordChar, part]) name named

theorem label_worded (name : String) (named : isLabelName name = true) : Worded name :=
  name_worded isLabelChar (fun c part => by simp [isWordChar, isMetricChar, part]) name named

theorem writable_escaped (sample : Sample) (writable : Writable sample) : Writable (escaped sample) := by
  have names : (escaped sample).labels.map Prod.fst = sample.labels.map Prod.fst := by
    simp [escaped, Function.comp_def]
  refine ⟨⟨writable.sound.metric, ?_, names ▸ writable.sound.distinct, writable.sound.value⟩, writable.value⟩
  intro label member
  obtain ⟨own, kept, rfl⟩ := List.mem_map.mp member
  exact writable.sound.labels own kept

def values (labels : List (String × String)) : List Char := labels.flatMap fun label => label.2.toList

-- The characters of a line that neither names and numbers nor the marks between them hold are those of its label values.
theorem line_count (x : Char) (outside : isWordChar x = false) (unmarked : x ∉ "\x7b\x7d=\", ".toList) (sample : Sample)
    (writable : Writable sample) : sample.line.toList.count x = (values sample.labels).count x := by
  have worded (text : String) (word : Worded text) : text.toList.count x = 0 := by
    refine List.count_eq_zero_of_not_mem fun member => ?_
    rw [List.all_eq_true.mp word.characters x member] at outside
    cases outside
  have marks (text : String) (mark : (text.toList.all fun c => c ∈ "\x7b\x7d=\", ".toList) = true) :
      text.toList.count x = 0 :=
    List.count_eq_zero_of_not_mem fun member => unmarked (of_decide_eq_true (List.all_eq_true.mp mark x member))
  have labels (labels : List (String × String)) (names : ∀ label ∈ labels, Worded label.1) :
      (", ".intercalate (labels.map Sample.label)).toList.count x = (values labels).count x := by
    induction labels with
    | nil => rfl
    | cons label others ih =>
        obtain ⟨name, more⟩ := List.forall_mem_cons.mp names
        have own : (Sample.label label).toList.count x = label.2.toList.count x := by
          simp only [Sample.label, String.toList_append, List.count_append, worded label.1 name,
            marks "=\"" (by decide), marks "\"" (by decide), Nat.zero_add, Nat.add_zero]
        rw [values, List.flatMap_cons, List.count_append, ← values, ← ih more, ← own]
        cases others with
        | nil =>
            rw [List.map_singleton, String.intercalate_singleton]
            rfl
        | cons other others =>
            rw [List.map_cons, List.map_cons, String.intercalate_cons_cons, String.toList_append, String.toList_append,
              List.count_append, List.count_append, marks ", " (by decide), Nat.add_zero]
  rw [Sample.line]
  simp only [String.toList_append, List.count_append, worded _ (metric_worded _ writable.sound.metric),
    worded _ writable.value, marks "\x7b" (by decide), marks "\x7d " (by decide), Nat.zero_add, Nat.add_zero]
  exact labels sample.labels fun label member => label_worded label.1 (writable.sound.labels label member)

theorem read_line (seen line rest : List Char) (whole : '\n' ∉ line) :
    readFrom seen (line ++ '\n' :: rest) =
      (readLine (seen ++ line)).bind fun told => (readFrom [] rest).map (told ++ ·) := by
  induction line generalizing seen with
  | nil => rw [List.append_nil, List.nil_append, readFrom, if_pos rfl]
  | cons c line ih =>
      obtain ⟨first, others⟩ := not_or.mp (mt List.mem_cons.mpr whole)
      rw [List.cons_append, readFrom, if_neg (Ne.symm first), ih _ others, List.append_assoc, List.singleton_append]

theorem tokens_of_line (sample : Sample) (writable : Writable sample) :
    tokensFrom .between (escaped sample).line.toList =
      some (.word sample.metric :: .opens :: (labelTokens sample.labels ++ [.word sample.value])) := by
  have names (label : String × String) (member : label ∈ sample.labels) : Worded label.1 :=
    label_worded label.1 (writable.sound.labels label member)
  have text : (escaped sample).line.toList = sample.metric.toList ++
      '\x7b' :: ((", ".intercalate (sample.labels.map labelText)).toList ++ '\x7d' :: ' ' :: sample.value.toList) := by
    simp [Sample.line, escaped, labelText, Function.comp_def]
  have value := tokens_of_word sample.value writable.value [] rfl
  rw [List.append_nil] at value
  rw [text, tokens_of_word sample.metric (metric_worded _ writable.sound.metric) _ (ends_at '\x7b' _ rfl),
    tokens_advance .between .between '\x7b' [.opens] _ rfl, tokens_of_labels sample.labels names,
    tokens_silent .between .between ' ' _ rfl, value]
  rfl

theorem sample_of_line (sample : Sample) (writable : Writable sample) :
    readLine (escaped sample).line.toList = some [sample] := by
  have worded := metric_worded _ writable.sound.metric
  obtain ⟨c, name, same⟩ := List.exists_cons_of_ne_nil (mt String.toList_eq_nil_iff.mp worded.nonempty)
  have inside : isWordChar c = true := List.all_eq_true.mp worded.characters c (same ▸ List.mem_cons_self)
  have begins : ((escaped sample).line.toList.dropWhile isBlank).head? = some c := by
    rw [Sample.line, String.append_assoc, String.append_assoc, String.append_assoc, String.toList_append]
    show ((sample.metric.toList ++ _).dropWhile isBlank).head? = some c
    rw [same, List.cons_append, List.dropWhile_cons_of_neg (by simp [word_char_shows c inside]), List.head?_cons]
  have comment : c ≠ '#' := by
    rintro rfl
    cases inside
  rw [readLine, begins, if_neg (fun equal => comment (Option.some.inj equal)), tokens_of_line sample writable, Option.bind_some,
    if_neg (by simp), sample?, labels_of_tokens, Option.bind_some, valued?, if_pos writable.sound]
  rfl

theorem escape_whole (text : String) : '\n' ∉ (escape text).toList := by
  intro member
  rw [escape, String.toList_ofList] at member
  obtain ⟨c, _, inside⟩ := List.mem_flatMap.mp member
  rw [escapeChar] at inside
  by_cases backslash : c = '\\'
  · simp [backslash] at inside
  · rw [if_neg backslash] at inside
    by_cases quote : c = '"'
    · simp [quote] at inside
    · rw [if_neg quote] at inside
      by_cases feed : c = '\n'
      · simp [feed] at inside
      · rw [if_neg feed] at inside
        exact feed (List.mem_singleton.mp inside).symm

theorem whole_line (sample : Sample) (writable : Writable sample) : '\n' ∉ (escaped sample).line.toList := by
  have count := line_count '\n' rfl (by decide) (escaped sample) (writable_escaped sample writable)
  rw [← List.count_eq_zero, count, List.count_eq_zero]
  intro feed
  obtain ⟨label, member, inside⟩ := List.mem_flatMap.mp feed
  obtain ⟨own, _, rfl⟩ := List.mem_map.mp member
  exact escape_whole own.2 inside

theorem read_exposed (samples : List Sample) (writable : ∀ sample ∈ samples, Writable sample) :
    read (expose samples) = some samples := by
  rw [read]
  induction samples with
  | nil => rfl
  | cons sample others ih =>
      obtain ⟨first, more⟩ := List.forall_mem_cons.mp writable
      have text : (expose (sample :: others)).toList = (escaped sample).line.toList ++ '\n' :: (expose others).toList := by
        simp [expose, String.join_cons]
      rw [text, read_line [] _ _ (whole_line sample first), List.nil_append, sample_of_line sample first, ih more]
      rfl

example : read "# none\nup 1 1700000000\n\nshelf_total\x7bname=\"a\\\\b\\n\"\x7d 2.5e3\n" =
    some [⟨"up", [], "1"⟩, ⟨"shelf_total", [("name", "a\\b\n")], "2.5e3"⟩] := by
  decide

end Exposition

end CacheTiers
