/-!
# Entries sorted by key

A finite map from texts, held as a list of entries in increasing order of their keys. Inserting
keeps the order, so two maps with the same entries are the same list and printing them needs no
further sorting.
-/

namespace Automation

/-- Entries in increasing order of their keys, each key once. -/
abbrev Entries (α : Type) := List (String × α)

namespace Entries

variable {α β : Type}

def get? : Entries α → String → Option α
  | [], _ => none
  | (k, v) :: rest, key => if k = key then some v else get? rest key

def has (m : Entries α) (key : String) : Bool := (get? m key).isSome

/-- The map with this value under the key, in place of any other. -/
def insert : Entries α → String → α → Entries α
  | [], key, value => [(key, value)]
  | (k, v) :: rest, key, value =>
    if key < k then (key, value) :: (k, v) :: rest
    else if key = k then (key, value) :: rest
    else (k, v) :: insert rest key value

def erase (m : Entries α) (key : String) : Entries α := m.filter (·.1 ≠ key)

/-- The map with the entries of a list, a later one replacing an earlier one of the same key. -/
def ofList (items : List (String × α)) : Entries α :=
  items.foldl (fun m (k, v) => insert m k v) []

def keys (m : Entries α) : List String := m.map (·.1)

def mapValues (f : α → β) (m : Entries α) : Entries β := m.map fun (k, v) => (k, f v)

def modify (m : Entries α) (key : String) (f : α → α) : Entries α :=
  m.map fun (k, v) => (k, if k = key then f v else v)

end Entries

end Automation
