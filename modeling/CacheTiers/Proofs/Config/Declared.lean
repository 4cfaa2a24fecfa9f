import CacheTiers.Config.File
import CacheTiers.Proofs.Config.Verdict
import CacheTiers.Proofs.Text.Utf8
import CacheTiers.Proofs.Toml.Names

namespace CacheTiers

section Entries

variable {α β : Type}

theorem read_all (read : α → Option β) (list : List α) :
    list.mapM read = if ∀ item ∈ list, (read item).isSome then some (list.filterMap read) else none := by
  induction list with
  | nil => rfl
  | cons item rest ih =>
      simp only [List.mapM_cons, ih, List.filterMap_cons, List.forall_mem_cons]
      cases read item with
      | none => rfl
      | some made =>
          by_cases all : ∀ item ∈ rest, (read item).isSome
          · rw [if_pos all, if_pos ⟨rfl, all⟩]
            rfl
          · rw [if_neg all, if_neg fun both => all both.2]
            rfl

theorem read_reordered (read : α → Option β) (list other : List α) (perm : list.Perm other) :
    Option.Rel (fun made again => made = list.filterMap read ∧ made.Perm again) (list.mapM read) (other.mapM read) := by
  have alike : (∀ item ∈ list, (read item).isSome) ↔ ∀ item ∈ other, (read item).isSome := by simp only [perm.mem_iff]
  rw [read_all, read_all]
  by_cases all : ∀ item ∈ list, (read item).isSome
  · rw [if_pos all, if_pos (alike.mp all)]
    exact .some ⟨rfl, perm.filterMap read⟩
  · rw [if_neg all, if_neg (mt alike.mpr all)]
    exact .none

theorem related_self {related : α → α → Prop} (reflexive : ∀ a, related a a) (item : Option α) :
    Option.Rel related item item := by
  cases item with
  | none => exact .none
  | some a => exact .some (reflexive a)

theorem bind_related {γ δ : Type} {related : α → β → Prop} {follows : γ → δ → Prop} {first : Option α} {other : Option β}
    {next : α → Option γ} {further : β → Option δ} (rel : Option.Rel related first other)
    (onward : ∀ a b, related a b → Option.Rel follows (next a) (further b)) :
    Option.Rel follows (first.bind next) (other.bind further) := by
  cases rel with
  | some related => exact onward _ _ related
  | none => exact .none

variable [DecidableEq α]

theorem store_absent (key : α) (value : β) (entries : List (α × β)) (absent : lookup key entries = none) :
    store key value entries = entries ++ [(key, value)] := by
  induction entries with
  | nil => rfl
  | cons entry rest ih =>
      by_cases same : key = entry.1
      · rw [lookup, if_pos same] at absent
        cases absent
      · rw [lookup, if_neg same] at absent
        rw [store, if_neg same, ih absent, List.cons_append]

theorem inserted_entries (pairs : List (α × β)) (table : Table α β)
    (nodup : ((table.entries ++ pairs).map Prod.fst).Nodup) :
    (pairs.foldl (fun table pair => table.insert pair.1 pair.2) table).entries = table.entries ++ pairs := by
  induction pairs generalizing table with
  | nil => exact (List.append_nil _).symm
  | cons pair rest ih =>
      have absent : lookup pair.1 table.entries = none := by
        rw [List.map_append, List.nodup_append] at nodup
        exact (lookup_none pair.1 table.entries).mpr fun old => nodup.2.2 _ old _ List.mem_cons_self rfl
      have grown : (table.insert pair.1 pair.2).entries = table.entries ++ [pair] := store_absent _ _ _ absent
      rw [← List.singleton_append, ← List.append_assoc, ← grown] at nodup
      rw [List.foldl_cons, ih _ nodup, grown, List.append_assoc, List.singleton_append]

theorem of_list_entries (pairs : List (α × β)) (nodup : (pairs.map Prod.fst).Nodup) : (Table.ofList pairs).entries = pairs :=
  inserted_entries pairs .empty nodup

end Entries

namespace Config

open Toml (Value Entries Standing)

-- What two documents have under a name if they may differ there in the order of a table.
inductive Shuffled : Option Value → Option Value → Prop where
  | same (field : Option Value) : Shuffled field field
  | ordered (standing other : Standing) {entries more : Entries} (perm : entries.Perm more) :
    Shuffled (some (.table standing entries)) (some (.table other more))

-- The same declarations, with those of the tiers and those of the operations in another order among themselves.
structure Redeclared (document other : Entries) : Prop where
  tiers : Shuffled (lookup "tiers" document) (lookup "tiers" other)
  operations : Shuffled (lookup "operations" document) (lookup "operations" other)
  others : ∀ name, name ≠ "tiers" → name ≠ "operations" → lookup name document = lookup name other

section Tables

variable {A : Type} (read : Value → Option A)

theorem read_names_distinct (entries : Entries) (distinct : Toml.Distinct entries) :
    ((entries.filterMap fun entry => (read entry.2).map fun thing => (entry.1, thing)).map Prod.fst).Nodup := by
  rw [List.Nodup, List.pairwise_map, List.pairwise_filterMap]
  refine (List.pairwise_map.mp distinct).imp ?_
  intro entry other different made taken again retaken
  obtain ⟨_, _, rfl⟩ := Option.map_eq_some_iff.mp taken
  obtain ⟨_, _, rfl⟩ := Option.map_eq_some_iff.mp retaken
  exact different

theorem table_reordered (standing other : Standing) (entries more : Entries) (distinct : Toml.Distinct entries)
    (perm : entries.Perm more) :
    Option.Rel (fun table again => table.entries.Perm again.entries) (table? read (.table standing entries))
      (table? read (.table other more)) := by
  rw [table?, table?, Option.map_eq_bind, Option.map_eq_bind]
  refine bind_related (read_reordered _ entries more perm) ?_
  rintro made again ⟨rfl, reordered⟩
  have kept := read_names_distinct read entries distinct
  refine .some ?_
  rw [of_list_entries _ kept, of_list_entries again ((reordered.map Prod.fst).nodup_iff.mp kept)]
  exact reordered

theorem field_shuffled {field other : Option Value} (shuffled : Shuffled field other)
    (distinct : ∀ standing entries, field = some (.table standing entries) → Toml.Distinct entries) :
    Option.Rel (fun table again => table.entries.Perm again.entries) (withDefault (table? read) .empty field)
      (withDefault (table? read) .empty other) := by
  cases shuffled with
  | same => exact related_self (fun table => .refl table.entries) _
  | ordered standing other perm => exact table_reordered read standing other _ _ (distinct standing _ rfl) perm

end Tables

theorem tidy_field {document : Entries} (tidy : Toml.Tidy document) (name : String) (standing : Standing)
    (entries : Entries) (found : lookup name document = some (.table standing entries)) : Toml.Distinct entries :=
  tidy.each _ (lookup_mem name _ document found)

theorem entries_redeclared {document other : Entries} (tidy : Toml.Tidy document) (redeclared : Redeclared document other) :
    Option.Rel Reordered (ofEntries? document) (ofEntries? other) := by
  have version := redeclared.others "config_version" (by decide) (by decide)
  have globals := redeclared.others "global" (by decide) (by decide)
  have tiers := field_shuffled tier? redeclared.tiers (tidy_field tidy "tiers")
  have operations := field_shuffled operation? redeclared.operations (tidy_field tidy "operations")
  rw [ofEntries?, ofEntries?, ← version, ← globals]
  refine bind_related (related_self Eq.refl _) ?_
  rintro version _ rfl
  refine bind_related (related_self Eq.refl _) ?_
  rintro globals _ rfl
  refine bind_related tiers fun _ _ tiers => ?_
  refine bind_related operations fun _ _ operations => ?_
  exact .some ⟨rfl, rfl, tiers, operations⟩

def documentOf? (content : Except FileFault (List UInt8)) : Option Entries :=
  (textOf content).toOption.bind fun text => Toml.read? text.toList

theorem document_of_text (text : String) : documentOf? (.ok (Text.encode text.toList)) = Toml.read? text.toList := by
  simp only [documentOf?, textOf, Text.decode_whole, Except.toOption, Option.bind_some, String.toList_ofList]

theorem of_file_ok (content : Except FileFault (List UInt8)) (config : Config) :
    ofFile content = .ok config ↔ (documentOf? content).bind ofEntries? = some config := by
  rw [ofFile, documentOf?]
  cases textOf content with
  | error fault => exact ⟨nofun, nofun⟩
  | ok text =>
      show parse text = .ok config ↔ (Toml.read? text.toList).bind ofEntries? = some config
      rw [parse]
      cases (Toml.read? text.toList).bind ofEntries? with
      | none => exact ⟨nofun, nofun⟩
      | some taken => rw [Except.ok.injEq, Option.some.injEq]

theorem document_of_tidy (content : Except FileFault (List UInt8)) (document : Entries)
    (declares : documentOf? content = some document) : Toml.Tidy document := by
  obtain ⟨text, _, read⟩ := Option.bind_eq_some_iff.mp declares
  exact Toml.read_tidy read

def RedeclaredFile (content other : Except FileFault (List UInt8)) : Prop :=
  ∃ document more, documentOf? content = some document ∧ documentOf? other = some more ∧ Redeclared document more

theorem redeclared_file_ok (content other : Except FileFault (List UInt8)) (config : Config)
    (redeclared : RedeclaredFile content other) (taken : ofFile content = .ok config) :
    ∃ again, ofFile other = .ok again ∧ Reordered config again := by
  obtain ⟨document, more, declares, repeats, shuffled⟩ := redeclared
  have related := entries_redeclared (document_of_tidy content document declares) shuffled
  rw [of_file_ok, declares] at taken
  simp only [of_file_ok, repeats]
  change ofEntries? document = some config at taken
  rw [taken] at related
  generalize made : ofEntries? more = again at related
  cases related with
  | some reordered => exact ⟨_, made, reordered⟩

theorem shuffled_symm {field other : Option Value} (shuffled : Shuffled field other) : Shuffled other field := by
  cases shuffled with
  | same => exact .same field
  | ordered standing other perm => exact .ordered other standing perm.symm

theorem redeclared_file_symm {content other : Except FileFault (List UInt8)} (redeclared : RedeclaredFile content other) :
    RedeclaredFile other content := by
  obtain ⟨document, more, declares, repeats, ⟨tiers, operations, others⟩⟩ := redeclared
  exact ⟨more, document, repeats, declares, shuffled_symm tiers, shuffled_symm operations,
    fun name noTiers noOperations => (others name noTiers noOperations).symm⟩

theorem check_reordered {config other : Config} (reordered : Reordered config other) (sound : config.check = .ok ()) :
    other.check = .ok () :=
  (check_ok other).mpr (well_formed_reordered config other reordered ((check_ok config).mp sound))

end Config

end CacheTiers
