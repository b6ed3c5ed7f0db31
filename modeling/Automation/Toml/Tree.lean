import Automation.Json.Source

/-!
# TOML tables under construction

A TOML document adds values under dotted keys and opens tables by headers. A table is remembered
together with how it came about: implicitly, as a step on the way to another one, or by a dotted
key. Only an implicit table may still be opened by a header, and only tables made by dotted keys may
be extended by dotted keys, so no table is defined twice.
-/

namespace Automation.Toml

open Json (Source)

/-- A value, a table or an array of tables. -/
inductive Node where
  | value (s : Source)
  | table (implicitly byDots : Bool) (entries : List (String × Node))
  | tables (elements : List Node)
deriving Inhabited

namespace Node

def child? (name : String) : List (String × Node) → Option Node
  | [] => none
  | (k, n) :: rest => if k == name then some n else child? name rest

/-- The entries with one replaced, or added at the end. -/
def setEntry (name : String) (n : Node) : List (String × Node) → List (String × Node)
  | [] => [(name, n)]
  | (k, m) :: rest => if k == name then (k, n) :: rest else (k, m) :: setEntry name n rest

/-- Changes the table at the end of the path, making the tables on the way. The way leads through
the last table of an array of tables, but not through a value, and by dotted keys not through a
table that has a header. -/
def modify (byDots : Bool) (f : Node → Option Node) : (path : List String) → Node → Option Node
  | [], n => f n
  | name :: path, .table i d entries => do
    let below := (child? name entries).getD (.table true byDots [])
    let changed ← match below with
      | .value _ => none
      | .tables elements => do
        let last ← elements.getLast?
        let next ← modify byDots f path last
        some (.tables (elements.dropLast ++ [next]))
      | .table implicitly _ _ =>
        if byDots && !implicitly then none else modify byDots f path below
    return .table i d (setEntry name changed entries)
  | _ :: _, _ => none

/-- Adds a value under a key to a table that is made in the same way as the key is written. -/
def addValue (path : List String) (name : String) (s : Source) (n : Node) : Option Node :=
  let add : Node → Option Node
    | .table i d entries =>
      if d == path.isEmpty || (child? name entries).isSome then none
      else some (.table i d (entries ++ [(name, .value s)]))
    | _ => none
  modify true add path n

def empty : Node := .table false false []

mutual

/-- The value that the tables amount to. -/
def source : Node → Source
  | .value s => s
  | .table _ _ entries => .object (sourceEntries entries)
  | .tables elements => .array (sources elements)

def sourceEntries : List (String × Node) → List (Option String × Source)
  | [] => []
  | (k, n) :: rest => (some k, n.source) :: sourceEntries rest

def sources : List Node → List Source
  | [] => []
  | n :: rest => n.source :: sources rest

end

end Node

structure Document where
  root : Node := .empty
  current : Node := .empty
  path : List String := []
  /-- The last header opened an element of an array of tables. -/
  isElement : Bool := false

namespace Document

/-- Puts the open table in its place. -/
def close? (d : Document) : Option Node :=
  match d.path.getLast? with
  | none => some d.current
  | some name =>
    let put : Node → Option Node
      | .table i b entries =>
        if d.isElement then
          match Node.child? name entries with
          | none => some (.table i b (entries ++ [(name, .tables [d.current])]))
          | some (.tables elements) =>
            some (.table i b (Node.setEntry name (.tables (elements ++ [d.current])) entries))
          | some _ => none
        else some (.table i b (Node.setEntry name d.current entries))
      | _ => none
    d.root.modify false put d.path.dropLast

def openTable? (d : Document) (path : List String) : Option Document := do
  let root ← d.close?
  let name ← path.getLast?
  -- the parent is made even if the table turns out to exist
  let root ← root.modify false some path.dropLast
  let held ← lookup path root
  match held with
  | none => return { root, current := .empty, path }
  | some (.table true false entries) =>
    let drop : Node → Option Node
      | .table i b es => some (.table i b (es.filter (·.1 != name)))
      | _ => none
    let root ← root.modify false drop path.dropLast
    return { root, current := .table false false entries, path }
  | some _ => none
where
  /-- What the path leads to, through the last tables of arrays. -/
  lookup : List String → Node → Option (Option Node)
    | [], n => some (some n)
    | name :: path, .table _ _ entries =>
      match Node.child? name entries with
      | none => some none
      | some (.tables elements) =>
        match path with
        | [] => some (some (.tables elements))
        | _ => match elements.getLast? with
          | some last => lookup path last
          | none => none
      | some n => lookup path n
    | _ :: _, _ => none

/-- Opens one more element of an array of tables. -/
def openElement? (d : Document) (path : List String) : Option Document := do
  let root ← d.close?
  let name ← path.getLast?
  let check : Node → Option Node
    | .table i b entries =>
      match Node.child? name entries with
      | none => some (.table i b entries)
      | some (.tables _) => some (.table i b entries)
      | some _ => none
    | _ => none
  let root ← root.modify false check path.dropLast
  return { root, current := .empty, path, isElement := true }

/-- Adds a value under a key to the open table. -/
def addValue? (d : Document) (path : List String) (name : String) (s : Source) :
    Option Document := do
  return { d with current := ← d.current.addValue path name s }

end Document

end Automation.Toml
