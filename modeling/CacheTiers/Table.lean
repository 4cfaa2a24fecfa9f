namespace CacheTiers

def lookup {α β : Type} [DecidableEq α] (key : α) : List (α × β) → Option β
  | [] => none
  | (k, v) :: rest => if key = k then some v else lookup key rest

def store {α β : Type} [DecidableEq α] (key : α) (value : β) : List (α × β) → List (α × β)
  | [] => [(key, value)]
  | (k, v) :: rest => if key = k then (key, value) :: rest else (k, v) :: store key value rest

def remove {α β : Type} [DecidableEq α] (key : α) (entries : List (α × β)) : List (α × β) :=
  entries.filter fun entry => entry.1 ≠ key

section Entries

variable {α β : Type} [DecidableEq α]

theorem mem_keys_store (key other : α) (value : β) (entries : List (α × β)) :
    other ∈ (store key value entries).map Prod.fst ↔ other = key ∨ other ∈ entries.map Prod.fst := by
  induction entries with
  | nil => simp [store]
  | cons entry rest ih =>
    obtain ⟨k, v⟩ := entry
    by_cases same : key = k
    · subst same
      simp [store]
    · rw [store, if_neg same, List.map_cons, List.mem_cons, ih, List.map_cons, List.mem_cons]
      exact ⟨fun h => h.elim (fun a => .inr (.inl a)) (fun b => b.elim .inl (fun c => .inr (.inr c))),
        fun h => h.elim (fun a => .inr (.inl a)) (fun b => b.elim .inl (fun c => .inr (.inr c)))⟩

theorem nodup_store (key : α) (value : β) (entries : List (α × β))
    (nodup : (entries.map Prod.fst).Nodup) : ((store key value entries).map Prod.fst).Nodup := by
  induction entries with
  | nil => simp [store]
  | cons entry rest ih =>
    obtain ⟨k, v⟩ := entry
    rw [List.map_cons, List.nodup_cons] at nodup
    by_cases same : key = k
    · subst same
      rw [store, if_pos rfl, List.map_cons, List.nodup_cons]
      exact nodup
    · rw [store, if_neg same, List.map_cons, List.nodup_cons]
      refine ⟨fun member => ?_, ih nodup.2⟩
      rcases (mem_keys_store key k value rest).1 member with equal | old
      · exact same equal.symm
      · exact nodup.1 old

theorem nodup_remove (key : α) (entries : List (α × β)) (nodup : (entries.map Prod.fst).Nodup) :
    ((remove key entries).map Prod.fst).Nodup :=
  nodup.sublist (List.filter_sublist.map Prod.fst)

theorem lookup_store_self (key : α) (value : β) (entries : List (α × β)) :
    lookup key (store key value entries) = some value := by
  induction entries with
  | nil => simp [store, lookup]
  | cons entry rest ih =>
    obtain ⟨k, v⟩ := entry
    by_cases same : key = k <;> simp [store, lookup, same, ih]

theorem lookup_store_other (key other : α) (value : β) (entries : List (α × β))
    (different : other ≠ key) : lookup other (store key value entries) = lookup other entries := by
  induction entries with
  | nil => simp [store, lookup, different]
  | cons entry rest ih =>
    obtain ⟨k, v⟩ := entry
    by_cases same : key = k
    · subst same
      simp [store, lookup, different]
    · simp [store, lookup, same, ih]

theorem lookup_remove (key other : α) (entries : List (α × β)) :
    lookup other (remove key entries) = if other = key then none else lookup other entries := by
  induction entries with
  | nil => simp [remove, lookup]
  | cons entry rest ih =>
    obtain ⟨k, v⟩ := entry
    unfold remove at ih ⊢
    by_cases same : k = key
    · subst same
      rw [List.filter_cons_of_neg (by simp), ih]
      by_cases equal : other = k <;> simp [lookup, equal]
    · rw [List.filter_cons_of_pos (by simpa using same), lookup, lookup, ih]
      by_cases equal : other = k
      · simp [equal, same]
      · simp [equal]

end Entries

structure Table (α β : Type) where
  entries : List (α × β)
  nodup : (entries.map Prod.fst).Nodup

namespace Table

variable {α β γ : Type}

def empty : Table α β := ⟨[], List.nodup_nil⟩

instance : Inhabited (Table α β) := ⟨empty⟩

instance : EmptyCollection (Table α β) := ⟨empty⟩

def keys (table : Table α β) : List α := table.entries.map Prod.fst

def values (table : Table α β) : List β := table.entries.map Prod.snd

def size (table : Table α β) : Nat := table.entries.length

variable [DecidableEq α]

def find? (table : Table α β) (key : α) : Option β := lookup key table.entries

def contains (table : Table α β) (key : α) : Bool := (table.find? key).isSome

def insert (table : Table α β) (key : α) (value : β) : Table α β :=
  ⟨store key value table.entries, nodup_store key value table.entries table.nodup⟩

def erase (table : Table α β) (key : α) : Table α β :=
  ⟨remove key table.entries, nodup_remove key table.entries table.nodup⟩

def ofList (pairs : List (α × β)) : Table α β :=
  pairs.foldl (fun table pair => table.insert pair.1 pair.2) empty

def mapValues (f : β → γ) (table : Table α β) : Table α γ :=
  ⟨table.entries.map fun entry => (entry.1, f entry.2), by
    simpa [List.map_map, Function.comp_def] using table.nodup⟩

@[simp]
theorem find?_empty (key : α) : (empty : Table α β).find? key = none := rfl

@[simp]
theorem find?_insert (table : Table α β) (key other : α) (value : β) :
    (table.insert key value).find? other = if other = key then some value else table.find? other := by
  by_cases same : other = key
  · subst same
    simp [find?, insert, lookup_store_self]
  · simp [find?, insert, lookup_store_other, same]

end Table

end CacheTiers
