import CacheTiers.Table

namespace CacheTiers.Toml

inductive Standing where
  | headed
  | implied
  | dotted
  | inline
deriving DecidableEq, Repr

namespace Standing

def isDotted : Standing → Bool
  | dotted => true
  | headed | implied | inline => false

-- Whether a path that makes tables of standing `making` may pass through a table: nothing enters an inline table, and
-- dotted keys do not reopen what a header declared.
def lets : (standing making : Standing) → Bool
  | inline, _ => false
  | headed, making => !making.isDotted
  | implied, _ | dotted, _ => true

end Standing

-- A value. What floats and moments of time denote is not kept.
inductive Value where
  | str (text : String)
  | int (value : Int)
  | float
  | bool (value : Bool)
  | moment
  -- A list; `growing` where its items are tables that headers add.
  | array (growing : Bool) (items : List Value)
  | table (standing : Standing) (entries : List (String × Value))
deriving Repr

abbrev Entries := List (String × Value)

mutual

def Value.same : Value → Value → Bool
  | .str text, .str other => text = other
  | .int value, .int other => value = other
  | .float, .float => true
  | .bool value, .bool other => value = other
  | .moment, .moment => true
  | .array growing items, .array other more => growing = other && sameItems items more
  | .table standing entries, .table other more => standing = other && sameEntries entries more
  | _, _ => false

def sameItems : List Value → List Value → Bool
  | [], [] => true
  | item :: rest, other :: more => item.same other && sameItems rest more
  | _, _ => false

def sameEntries : List (String × Value) → List (String × Value) → Bool
  | [], [] => true
  | (name, value) :: rest, (other, further) :: more => name = other && value.same further && sameEntries rest more
  | _, _ => false

end

mutual

theorem Value.same_iff (value other : Value) : value.same other = true ↔ value = other := by
  cases value <;> cases other <;> simp [Value.same, same_items_iff, same_entries_iff]

theorem same_items_iff (items more : List Value) : sameItems items more = true ↔ items = more := by
  cases items <;> cases more <;> simp [sameItems, Value.same_iff, same_items_iff]

theorem same_entries_iff (entries more : List (String × Value)) : sameEntries entries more = true ↔ entries = more := by
  cases entries with
  | nil => cases more <;> simp [sameEntries]
  | cons entry rest =>
    obtain ⟨name, value⟩ := entry
    cases more with
    | nil => simp [sameEntries]
    | cons other more =>
      obtain ⟨further, given⟩ := other
      simp [sameEntries, Value.same_iff value, same_entries_iff rest, and_assoc]

end

instance : DecidableEq Value := fun value other => decidable_of_iff _ (Value.same_iff value other)

structure Path where
  way : List String
  name : String
deriving DecidableEq, Repr

-- Follows a way through tables and updates the table at its end, given how that came about. Tables that are missing
-- are made with standing `making`; an array of tables is entered at its last one.
def descend (making : Standing) (update : Standing → Entries → Option Entries) :
    List String → Standing → Entries → Option Entries
  | [], standing, entries => update standing entries
  | name :: way, _, entries =>
    match lookup name entries with
    | none => do
      let made ← descend making update way making []
      return entries ++ [(name, .table making made)]
    | some (.table standing inner) =>
      if standing.lets making then do
        let later ← descend making update way standing inner
        return store name (.table standing later) entries
      else none
    | some (.array true items) =>
      match items.getLast? with
      | some (.table standing inner) => do
        let later ← descend making update way standing inner
        return store name (.array true (items.dropLast ++ [.table standing later])) entries
      | _ => none
    | some _ => none

-- Adds a value under a name that is free. A table made by dotted keys is extended by dotted keys alone, and they
-- extend no other.
def addEntry (path : Path) (value : Value) (standing : Standing) (entries : Entries) : Option Entries :=
  if standing.isDotted = path.way.isEmpty then none
  else match lookup path.name entries with
    | some _ => none
    | none => some (entries ++ [(path.name, value)])

def addAll (making : Standing) : List (Path × Value) → Entries → Option Entries
  | [], entries => some entries
  | (path, value) :: rest, entries => do
    let later ← descend making (addEntry path value) path.way .headed entries
    addAll making rest later

def inlineTable? (values : List (Path × Value)) : Option Value :=
  (addAll .dotted values []).map (.table .inline)

inductive Heading where
  | table
  | item
deriving DecidableEq, Repr

structure Section where
  heading : Heading
  path : Path
  values : List (Path × Value)
deriving Repr

-- Adds what a header declares to the table that it stands in. A table that was only on the way of other headers is
-- declared now, and moves to the end.
def Section.declare (part : Section) (entries : Entries) : Option Entries :=
  match part.heading, lookup part.path.name entries with
  | .table, none => do
    let made ← addAll .dotted part.values []
    return entries ++ [(part.path.name, .table .headed made)]
  | .table, some (.table .implied inner) => do
    let made ← addAll .dotted part.values inner
    return remove part.path.name entries ++ [(part.path.name, .table .headed made)]
  | .item, none => do
    let made ← addAll .dotted part.values []
    return entries ++ [(part.path.name, .array true [.table .headed made])]
  | .item, some (.array true items) => do
    let made ← addAll .dotted part.values []
    return store part.path.name (.array true (items ++ [.table .headed made])) entries
  | _, some _ => none

def addSections : List Section → Entries → Option Entries
  | [], entries => some entries
  | part :: rest, entries => do
    let later ← descend .implied (fun _ => part.declare) part.path.way .headed entries
    addSections rest later

def document? (values : List (Path × Value)) (sections : List Section) : Option Entries := do
  let entries ← addAll .dotted values []
  addSections sections entries

end CacheTiers.Toml
