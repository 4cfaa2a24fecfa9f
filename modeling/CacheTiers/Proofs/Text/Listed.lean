import CacheTiers.Config.Description
import CacheTiers.Proofs.Config.WellFormed
import CacheTiers.Proofs.Text.Order
import Mathlib.Data.List.Sort

namespace CacheTiers

section Order

variable {A B : Type} (texts : A → List String) (le : A → A → Bool)

theorem listed_before (table : Table A B) (tells : ∀ a b, texts a = texts b → a = b)
    (compares : ∀ a b, le a b = true ↔ texts a ≤ texts b) :
    (table.entries.mergeSort fun a b => le a.1 b.1).Pairwise fun earlier later =>
      Text.Before (texts earlier.1) (texts later.1) := by
  have transitive (a b c : A × B) (first : le a.1 b.1 = true) (second : le b.1 c.1 = true) : le a.1 c.1 = true :=
    (compares _ _).mpr (le_trans ((compares _ _).mp first) ((compares _ _).mp second))
  have total (a b : A × B) : (le a.1 b.1 || le b.1 a.1) = true := by
    rw [Bool.or_eq_true, compares, compares]
    exact le_total (texts a.1) (texts b.1)
  have sorted := List.pairwise_mergeSort transitive total table.entries
  have distinct : (table.entries.mergeSort fun a b => le a.1 b.1).Pairwise fun a b => a.1 ≠ b.1 :=
    List.pairwise_map.mp (((List.mergeSort_perm _ _).map Prod.fst).nodup_iff.mpr table.nodup)
  refine (sorted.and distinct).imp ?_
  rintro earlier later ⟨ordered, different⟩
  exact Text.before_of_lt _ _ (lt_of_le_of_ne ((compares _ _).mp ordered) fun same => different (tells _ _ same))

end Order

theorem texts_le_iff (text other : String) (rest more : List String) :
    text :: rest ≤ other :: more ↔ if text = other then rest ≤ more else text < other := by
  rw [← not_lt, List.cons_lt_cons_iff]
  by_cases same : text = other
  · simp [same]
  · simp [same, Ne.symm same, lt_iff_le_and_ne]

theorem last_text_le_iff (text other : String) : [text] ≤ [other] ↔ text ≤ other := by
  rw [texts_le_iff]
  by_cases same : text = other
  · simp [same]
  · simp [same, lt_iff_le_and_ne]

-- All the entries of a table, each of them once, by the bytes of their names.
structure Table.ListedAs {A : Type} (table : Table String A) (listed : List (String × A)) : Prop where
  complete : ∀ name thing, (name, thing) ∈ listed ↔ table.find? name = some thing
  ascending : listed.Pairwise fun earlier later => Text.bytes earlier.1 < Text.bytes later.1

theorem sorted_lists {A : Type} (table : Table String A) : table.ListedAs (Config.sorted table) := by
  have strictly := listed_before (fun name => [name]) (fun name other => decide (name ≤ other)) table
    (fun _ _ => List.head_eq_of_cons_eq) fun name other => by rw [decide_eq_true_eq, last_text_le_iff]
  refine ⟨fun name thing => ?_, strictly.imp fun before => ?_⟩
  · rw [Config.sorted, List.mem_mergeSort, find_entry]
  · exact (List.cons_lt_cons_iff.mp before).resolve_right fun tie => List.not_lt_nil _ tie.2

theorem sorted_of_listed {A : Type} {table : Table String A} {listed : List (String × A)} (lists : table.ListedAs listed) :
    Config.sorted table = listed := by
  have irreflexive : Std.Irrefl fun earlier later : String × A => Text.bytes earlier.1 < Text.bytes later.1 :=
    ⟨fun _ => List.lt_irrefl _⟩
  have antisymmetric : Std.Antisymm fun earlier later : String × A => Text.bytes earlier.1 < Text.bytes later.1 :=
    ⟨fun _ _ less more => absurd more (List.lt_asymm less)⟩
  have sorted := sorted_lists table
  refine sorted.ascending.eq_of_mem_iff lists.ascending ?_
  rintro ⟨name, thing⟩
  rw [sorted.complete, lists.complete]

end CacheTiers
