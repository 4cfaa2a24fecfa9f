import CacheTiers.Proofs.Config.WellFormed
import CacheTiers.Toml.Reader

namespace CacheTiers

section Entries

variable {α β : Type} [DecidableEq α]

theorem lookup_none (key : α) (entries : List (α × β)) :
    lookup key entries = none ↔ key ∉ entries.map Prod.fst := by
  induction entries with
  | nil => simp [lookup]
  | cons entry rest ih =>
      by_cases same : key = entry.1
      · simp [lookup, same]
      · rw [lookup, if_neg same, ih, List.map_cons, List.mem_cons, not_or]
        exact ⟨fun absent => ⟨same, absent⟩, And.right⟩

theorem nodup_append (key : α) (value : β) (entries : List (α × β)) (absent : lookup key entries = none)
    (nodup : (entries.map Prod.fst).Nodup) : ((entries ++ [(key, value)]).map Prod.fst).Nodup := by
  rw [List.map_append, List.map_singleton, List.nodup_append]
  refine ⟨nodup, List.pairwise_singleton _ key, ?_⟩
  rintro name member other last rfl
  rw [List.mem_singleton.mp last] at member
  exact (lookup_none key entries).mp absent member

theorem mem_store (key : α) (value : β) (entries : List (α × β)) (entry : α × β)
    (member : entry ∈ store key value entries) : entry = (key, value) ∨ entry ∈ entries := by
  induction entries with
  | nil => exact .inl (List.mem_singleton.mp member)
  | cons first rest ih =>
      rw [store] at member
      by_cases same : key = first.1
      · rw [if_pos same] at member
        rcases List.mem_cons.mp member with here | later
        · exact .inl here
        · exact .inr (List.mem_cons_of_mem _ later)
      · rw [if_neg same] at member
        rcases List.mem_cons.mp member with here | later
        · exact .inr (List.mem_cons.mpr (.inl here))
        · exact (ih later).imp id (List.mem_cons_of_mem _)

end Entries

namespace Toml

def Distinct (entries : Entries) : Prop := (entries.map Prod.fst).Nodup

-- A table has no name twice; of what stands under its names nothing is said.
def Value.Distinct : Value → Prop
  | .table _ entries => Toml.Distinct entries
  | .str _ | .int _ | .float | .bool _ | .moment | .array .. => True

structure Tidy (entries : Entries) : Prop where
  distinct : Distinct entries
  each : ∀ entry ∈ entries, entry.2.Distinct

theorem tidy_nil : Tidy [] := ⟨List.nodup_nil, List.forall_mem_nil _⟩

theorem tidy_append {name : String} {value : Value} {entries : Entries} (tidy : Tidy entries)
    (absent : lookup name entries = none) (distinct : value.Distinct) : Tidy (entries ++ [(name, value)]) :=
  ⟨nodup_append name value entries absent tidy.distinct,
    List.forall_mem_append.mpr ⟨tidy.each, List.forall_mem_singleton.mpr distinct⟩⟩

theorem tidy_store {name : String} {value : Value} {entries : Entries} (tidy : Tidy entries)
    (distinct : value.Distinct) : Tidy (store name value entries) := by
  refine ⟨nodup_store name value entries tidy.distinct, ?_⟩
  intro entry member
  rcases mem_store name value entries entry member with rfl | old
  · exact distinct
  · exact tidy.each entry old

theorem tidy_remove {name : String} {entries : Entries} (tidy : Tidy entries) : Tidy (remove name entries) :=
  ⟨nodup_remove name entries tidy.distinct, fun entry member => tidy.each entry (List.mem_filter.mp member).1⟩

-- What a way through tables does to the table that it starts from: its end is updated, a name is added, or the entry of a
-- name is replaced, by a table that has come about in the same manner or by a list.
inductive Descends (making : Standing) (update : Standing → Entries → Option Entries) :
    List String → Standing → Entries → Entries → Prop where
  | done {standing : Standing} {entries later : Entries} (updated : update standing entries = some later) :
    Descends making update [] standing entries later
  | added {name : String} {way : List String} {standing : Standing} {entries made : Entries}
    (absent : lookup name entries = none) (inside : Descends making update way making [] made) :
    Descends making update (name :: way) standing entries (entries ++ [(name, .table making made)])
  | entered {name : String} {way : List String} {standing inner : Standing} {entries within later : Entries}
    (found : lookup name entries = some (.table inner within)) (inside : Descends making update way inner within later) :
    Descends making update (name :: way) standing entries (store name (.table inner later) entries)
  | listed {name : String} {way : List String} {standing : Standing} {entries : Entries} (items : List Value) :
    Descends making update (name :: way) standing entries (store name (.array true items) entries)

theorem descends_of_some {making : Standing} {update : Standing → Entries → Option Entries} {way : List String}
    {standing : Standing} {entries later : Entries} (reached : descend making update way standing entries = some later) :
    Descends making update way standing entries later := by
  induction way generalizing standing entries later with
  | nil => exact .done reached
  | cons name way ih =>
      rw [descend] at reached
      split at reached
      case h_1 absent =>
        obtain ⟨made, inside, same⟩ := Option.bind_eq_some_iff.mp reached
        cases same
        exact .added absent (ih inside)
      case h_2 inner within found =>
        split at reached
        · obtain ⟨changed, inside, same⟩ := Option.bind_eq_some_iff.mp reached
          cases same
          exact .entered found (ih inside)
        · cases reached
      case h_3 items found =>
        split at reached
        · obtain ⟨changed, inside, same⟩ := Option.bind_eq_some_iff.mp reached
          cases same
          exact .listed _
        · cases reached
      case h_4 => cases reached

section Descending

variable {making : Standing} {update : Standing → Entries → Option Entries} {way : List String} {standing : Standing}
  {entries later : Entries}

theorem descends_distinct (descends : Descends making update way standing entries later) (distinct : Distinct entries)
    (keeps : ∀ standing before after, Distinct before → update standing before = some after → Distinct after) :
    Distinct later := by
  cases descends with
  | done updated => exact keeps standing entries later distinct updated
  | added absent inside => exact nodup_append _ _ entries absent distinct
  | entered found inside => exact nodup_store _ _ entries distinct
  | listed items => exact nodup_store _ _ entries distinct

theorem descends_tidy (descends : Descends making update way standing entries later) (tidy : Tidy entries)
    (distinct : ∀ standing before after, Distinct before → update standing before = some after → Distinct after)
    (keeps : ∀ standing before after, Tidy before → update standing before = some after → Tidy after) : Tidy later := by
  cases descends with
  | done updated => exact keeps standing entries later tidy updated
  | added absent inside => exact tidy_append tidy absent (descends_distinct inside List.nodup_nil distinct)
  | entered found inside =>
      exact tidy_store tidy (descends_distinct inside (tidy.each _ (lookup_mem _ _ entries found)) distinct)
  | listed items => exact tidy_store tidy trivial

end Descending

theorem add_entry_appends {path : Path} {value : Value} {standing : Standing} {entries later : Entries}
    (added : addEntry path value standing entries = some later) :
    lookup path.name entries = none ∧ later = entries ++ [(path.name, value)] := by
  rw [addEntry] at added
  split at added
  · cases added
  · split at added
    · cases added
    · next absent => exact ⟨absent, (Option.some.inj added).symm⟩

theorem add_entry_distinct (path : Path) (value : Value) (standing : Standing) (before after : Entries)
    (distinct : Distinct before) (added : addEntry path value standing before = some after) : Distinct after := by
  obtain ⟨absent, rfl⟩ := add_entry_appends added
  exact nodup_append _ _ before absent distinct

theorem add_all_distinct {making : Standing} {values : List (Path × Value)} {entries later : Entries}
    (distinct : Distinct entries) (added : addAll making values entries = some later) : Distinct later := by
  induction values generalizing entries with
  | nil =>
      cases added
      exact distinct
  | cons entry rest ih =>
      obtain ⟨path, value⟩ := entry
      obtain ⟨between, first, others⟩ := Option.bind_eq_some_iff.mp added
      exact ih (descends_distinct (descends_of_some first) distinct (add_entry_distinct path value)) others

theorem add_all_tidy {making : Standing} {values : List (Path × Value)} {entries later : Entries}
    (each : ∀ entry ∈ values, entry.2.Distinct) (tidy : Tidy entries) (added : addAll making values entries = some later) :
    Tidy later := by
  induction values generalizing entries with
  | nil =>
      cases added
      exact tidy
  | cons entry rest ih =>
      obtain ⟨path, value⟩ := entry
      obtain ⟨between, first, others⟩ := Option.bind_eq_some_iff.mp added
      obtain ⟨here, further⟩ := List.forall_mem_cons.mp each
      refine ih further (descends_tidy (descends_of_some first) tidy (add_entry_distinct path value) ?_) others
      intro standing before after tidy added
      obtain ⟨absent, rfl⟩ := add_entry_appends added
      exact tidy_append tidy absent here

inductive Declared (name : String) (entries : Entries) (value : Value) : Entries → Prop where
  | added (absent : lookup name entries = none) : Declared name entries value (entries ++ [(name, value)])
  | moved : Declared name entries value (remove name entries ++ [(name, value)])
  | stored : Declared name entries value (store name value entries)

theorem declared_of_some {part : Section} {entries later : Entries} (declared : part.declare entries = some later) :
    ∃ value, (Tidy entries → value.Distinct) ∧ Declared part.path.name entries value later := by
  rw [Section.declare] at declared
  split at declared
  case h_1 absent =>
    obtain ⟨made, added, same⟩ := Option.bind_eq_some_iff.mp declared
    cases same
    exact ⟨.table .headed made, fun _ => add_all_distinct tidy_nil.distinct added, .added absent⟩
  case h_2 inner found =>
    obtain ⟨made, added, same⟩ := Option.bind_eq_some_iff.mp declared
    cases same
    exact ⟨.table .headed made, fun tidy => add_all_distinct (tidy.each _ (lookup_mem _ _ entries found)) added, .moved⟩
  case h_3 absent =>
    obtain ⟨made, added, same⟩ := Option.bind_eq_some_iff.mp declared
    cases same
    exact ⟨.array true [.table .headed made], fun _ => trivial, .added absent⟩
  case h_4 =>
    obtain ⟨made, added, same⟩ := Option.bind_eq_some_iff.mp declared
    cases same
    refine ⟨_, ?_, .stored⟩
    exact fun _ => trivial
  case h_5 => cases declared

theorem removed_absent (name : String) (entries : Entries) : lookup name (remove name entries) = none := by
  rw [lookup_remove, if_pos rfl]

theorem declared_distinct {name : String} {entries later : Entries} {value : Value} (distinct : Distinct entries)
    (declared : Declared name entries value later) : Distinct later := by
  cases declared with
  | added absent => exact nodup_append name value entries absent distinct
  | moved => exact nodup_append name value _ (removed_absent name entries) (nodup_remove name entries distinct)
  | stored => exact nodup_store name value entries distinct

theorem declared_tidy {name : String} {entries later : Entries} {value : Value} (tidy : Tidy entries)
    (distinct : value.Distinct) (declared : Declared name entries value later) : Tidy later := by
  cases declared with
  | added absent => exact tidy_append tidy absent distinct
  | moved => exact tidy_append (tidy_remove tidy) (removed_absent name entries) distinct
  | stored => exact tidy_store tidy distinct

theorem add_sections_tidy {parts : List Section} {entries later : Entries} (tidy : Tidy entries)
    (added : addSections parts entries = some later) : Tidy later := by
  induction parts generalizing entries with
  | nil =>
      cases added
      exact tidy
  | cons part rest ih =>
      obtain ⟨between, first, others⟩ := Option.bind_eq_some_iff.mp added
      refine ih (descends_tidy (descends_of_some first) tidy ?_ ?_) others
      · intro _ before after distinct declared
        obtain ⟨value, _, shape⟩ := declared_of_some declared
        exact declared_distinct distinct shape
      · intro _ before after tidy declared
        obtain ⟨value, sound, shape⟩ := declared_of_some declared
        exact declared_tidy tidy (sound tidy) shape

theorem document_tidy {values : List (Path × Value)} {parts : List Section} {document : Entries}
    (each : ∀ entry ∈ values, entry.2.Distinct) (made : document? values parts = some document) : Tidy document := by
  obtain ⟨entries, added, declared⟩ := Option.bind_eq_some_iff.mp made
  exact add_sections_tidy (add_all_tidy each tidy_nil added) declared

section Reading

theorem bounded_distinct {negative : Bool} {magnitude : Nat} {value : Value}
    (read : bounded? negative magnitude = some value) : value.Distinct := by
  simp only [bounded?, Option.ite_none_right_eq_some, Option.some.injEq] at read
  obtain ⟨_, rfl⟩ := read
  trivial

theorem integer_distinct {chars : List Char} {value : Value} (read : integer? chars = some value) : value.Distinct := by
  unfold integer? at read
  split at read
  all_goals
    obtain ⟨digits, _, bounded⟩ := Option.bind_eq_some_iff.mp read
    exact bounded_distinct bounded

theorem float_distinct {chars : List Char} {value : Value} (read : float? chars = some value) : value.Distinct := by
  unfold float? at read
  dsimp only at read
  split at read
  · cases read
    trivial
  · obtain ⟨whole, _, read⟩ := Option.bind_eq_some_iff.mp read
    obtain ⟨⟨digits, exponent⟩, _, read⟩ := Option.bind_eq_some_iff.mp read
    dsimp only at read
    split at read
    · cases read
    · cases read
      trivial

theorem word_distinct {chars : List Char} {value : Value} (read : word? chars = some value) : value.Distinct := by
  rw [word?] at read
  split at read
  · cases read
    trivial
  split at read
  · cases read
    trivial
  split at read
  · cases read
    trivial
  split at read
  case h_1 number whole =>
    cases read
    exact integer_distinct whole
  case h_2 => exact float_distinct read

theorem read_word_distinct {tokens rest : List Token} {value : Value} (read : readWord tokens = some (value, rest)) :
    value.Distinct := by
  obtain ⟨word, taken, onward⟩ := Option.bind_eq_some_iff.mp read
  have distinct := word_distinct taken
  dsimp only at onward
  split at onward
  · split at onward
    · cases onward
      exact distinct
    · cases onward
      exact distinct
  · cases onward
    exact distinct

theorem inline_distinct {values : List (Path × Value)} {value : Value} (made : inlineTable? values = some value) :
    value.Distinct := by
  obtain ⟨entries, added, rfl⟩ := Option.map_eq_some_iff.mp made
  exact add_all_distinct tidy_nil.distinct added

theorem read_value_distinct {fuel depth : Nat} {tokens rest : List Token} {value : Value}
    (read : readValue fuel depth tokens = some (value, rest)) : value.Distinct := by
  cases fuel with
  | zero => cases read
  | succ fuel =>
      unfold readValue at read
      split at read
      · cases read
        trivial
      · obtain ⟨⟨items, later⟩, _, same⟩ := Option.bind_eq_some_iff.mp read
        cases same
        trivial
      · dsimp only at read
        split at read
        all_goals
          obtain ⟨⟨values, later⟩, _, made⟩ := Option.bind_eq_some_iff.mp read
          obtain ⟨table, inline, same⟩ := Option.bind_eq_some_iff.mp made
          cases same
          exact inline_distinct inline
      · exact read_word_distinct read

def Statement.Distinct (statement : Statement) : Prop :=
  match statement with
  | .header _ _ => True
  | .value _ given => given.Distinct

theorem read_header_distinct {tokens rest : List Token} {statement : Statement}
    (read : readHeader tokens = some (statement, rest)) : statement.Distinct := by
  unfold readHeader at read
  split at read
  case h_3 => cases read
  all_goals
    obtain ⟨key, _, found⟩ := Option.bind_eq_some_iff.mp read
    split at found
    · cases found
      trivial
    · cases found

theorem read_named_distinct {tokens rest : List Token} {statement : Statement}
    (read : readNamed tokens = some (statement, rest)) : statement.Distinct := by
  obtain ⟨key, _, found⟩ := Option.bind_eq_some_iff.mp read
  split at found
  · obtain ⟨⟨value, later⟩, given, same⟩ := Option.bind_eq_some_iff.mp found
    cases same
    exact read_value_distinct given
  · cases found

theorem read_statements_distinct {fuel : Nat} {tokens : List Token} {statements : List Statement}
    (read : readStatements fuel tokens = some statements) : ∀ statement ∈ statements, statement.Distinct := by
  induction fuel generalizing tokens statements with
  | zero => cases read
  | succ fuel ih =>
      unfold readStatements at read
      split at read
      · cases read
        exact List.forall_mem_nil _
      -- A header and a named value are followed by other statements in the same way.
      all_goals
        obtain ⟨⟨statement, after⟩, first, read⟩ := Option.bind_eq_some_iff.mp read
        obtain ⟨later, _, read⟩ := Option.bind_eq_some_iff.mp read
        obtain ⟨others, further, same⟩ := Option.bind_eq_some_iff.mp read
        cases same
        refine List.forall_mem_cons.mpr ⟨?_, ih further⟩
      · exact read_header_distinct first
      · exact read_named_distinct first

theorem sections_distinct (statements : List Statement) (each : ∀ statement ∈ statements, statement.Distinct) :
    ∀ entry ∈ (sections statements).1, entry.2.Distinct := by
  induction statements with
  | nil => exact List.forall_mem_nil _
  | cons statement rest ih =>
      obtain ⟨here, others⟩ := List.forall_mem_cons.mp each
      cases statement with
      | header heading path => exact List.forall_mem_nil _
      | value path value => exact List.forall_mem_cons.mpr ⟨here, ih others⟩

theorem read_tidy {text : List Char} {document : Entries} (made : read? text = some document) : Tidy document := by
  obtain ⟨tokens, _, made⟩ := Option.bind_eq_some_iff.mp made
  obtain ⟨statements, read, made⟩ := Option.bind_eq_some_iff.mp made
  exact document_tidy (sections_distinct statements (read_statements_distinct read)) made

end Reading

end Toml

end CacheTiers
