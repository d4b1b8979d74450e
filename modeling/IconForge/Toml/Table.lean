import IconForge.Toml.Value

/-!
# Building TOML tables

A document adds to its tables line by line, and the rules that forbid a second definition depend on
how each table came to be. A table that a header names is closed to further headers of its own and
to dotted keys from outside; one that only lies on the way of a header may still be named; one made
by dotted keys can only grow by dotted keys, or by headers below it.
-/

namespace IconForge
namespace Toml

inductive Origin where
  /-- Named by a header of its own. -/
  | named
  /-- On the way to a table that a header names. -/
  | passed
  /-- On the way of a dotted key. -/
  | dotted
  deriving DecidableEq

/-- What a key stands for while a document is being read. -/
inductive Item where
  | value (value : Value)
  | table (origin : Origin) (entries : List (String × Item))
  /-- An array of tables: the last one, to which lines are added, and those before it, the latest
  first. -/
  | tables (last : List (String × Item)) (earlier : List (List (String × Item)))

abbrev Items := List (String × Item)

namespace Items

/-- Puts an item in the place of the one that a key has. -/
def replace (items : Items) (key : String) (item : Item) : Items :=
  items.map fun entry => if entry.1 = key then (key, item) else entry

/-- Adds a value under a dotted key. The flag tells whether the table at hand may take a plain key:
it may if the whole key is plain, or if the table was made by dotted keys. -/
def assign (value : Value) (mayTake : Bool) : List String → String → Items → Option Items
  | [], key, items =>
    if mayTake ∧ (items.lookup key).isNone then some (items ++ [(key, .value value)]) else none
  | step :: way, key, items =>
    match items.lookup step with
    | none => do
      let below ← assign value true way key []
      return items ++ [(step, .table .dotted below)]
    | some (.table .dotted entries) => do
      return items.replace step (.table .dotted (← assign value true way key entries))
    | some (.table .passed entries) => do
      return items.replace step (.table .passed (← assign value false way key entries))
    | some (.tables last earlier) => do
      return items.replace step (.tables (← assign value false way key last) earlier)
    | some (.table .named _) | some (.value _) => none

/-- Applies an action to the table at the end of a way, which is laid where it is missing. -/
def along (action : Items → Option Items) : List String → Items → Option Items
  | [], items => action items
  | step :: way, items =>
    match items.lookup step with
    | none => do
      return items ++ [(step, .table .passed (← along action way []))]
    | some (.table origin entries) => do
      return items.replace step (.table origin (← along action way entries))
    | some (.tables last earlier) => do
      return items.replace step (.tables (← along action way last) earlier)
    | some (.value _) => none

def nameTable (key : String) (items : Items) : Option Items :=
  match items.lookup key with
  | none => some (items ++ [(key, .table .named [])])
  | some (.table .passed entries) => some (items.replace key (.table .named entries))
  | some _ => none

def addElement (key : String) (items : Items) : Option Items :=
  match items.lookup key with
  | none => some (items ++ [(key, .tables [] [])])
  | some (.tables last earlier) => some (items.replace key (.tables [] (last :: earlier)))
  | some _ => none

end Items

mutual

/-- The value that an item has at the end of the document. -/
def Item.toValue : Item → Value
  | .value value => value
  | .table _ entries => .table (Items.toEntries entries)
  | .tables last earlier => .array (Items.toValues [.table (Items.toEntries last)] earlier)

def Items.toEntries : List (String × Item) → Entries
  | [] => []
  | (key, item) :: others => (key, item.toValue) :: Items.toEntries others

/-- The tables of an array, the latest first, before the values that follow them. -/
def Items.toValues (following : List Value) : List (List (String × Item)) → List Value
  | [] => following
  | latest :: earlier => Items.toValues (.table (Items.toEntries latest) :: following) earlier

end

/-- A key with its value; the way is what stands before the last dot of the key. -/
structure Assignment where
  way : List String
  key : String
  value : Value

def tableOfAssignments? (assignments : List Assignment) : Option Value := do
  let items ← assignments.foldlM (fun (items : Items) a => items.assign a.value true a.way a.key) []
  return .table (Items.toEntries items)

end Toml
end IconForge
