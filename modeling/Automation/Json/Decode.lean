import Automation.Json.Reader

/-!
# Typed parts of JSON

A decoder reads one type from a source nested at most so deep. A record is written as an object, in
which unknown names are passed over and a known name may stand once, or as an array of its fields in
their order. A field may be required, may have a value that stands in for a missing one, or may be
absent or null.
-/

namespace Automation.Json

/-- Reads a value of type `α` from a source that may be nested `depth` deep. -/
abbrev Decoder (α : Type) := (depth : Nat) → Source → Option α

namespace Decoder

variable {α β : Type}

def ofText? (d : Decoder α) (text : String) : Option α := do
  d maxDepth (← Source.read? text)

def ofValue? (d : Decoder α) (v : Value) : Option α := d maxDepth v.source

def bool : Decoder Bool
  | _, .bool b => some b
  | _, _ => none

def string : Decoder String
  | _, .string s => s
  | _, _ => none

def value : Decoder Value := fun depth s => s.value? depth

def intBetween (low high : Int) : Decoder Int
  | _, .number (some (.int i)) => if low ≤ i && i ≤ high then some i else none
  | _, _ => none

def natBits (bits : Nat) : Decoder Nat := fun depth s =>
  (intBetween 0 (Nat.pow 2 bits - 1) depth s).map Int.toNat

def float : Decoder Float
  | _, .number (some n) => some n.toFloat
  | _, _ => none

def nullable (d : Decoder α) : Decoder (Option α)
  | _, .null => some none
  | depth, s => (d depth s).map some

def list (d : Decoder α) : Decoder (List α)
  | 0, .array _ => none
  | depth + 1, .array items => items.mapM (d depth)
  | _, _ => none

/-- Values under names; of a repeated name the last one counts. -/
def entries (d : Decoder α) : Decoder (Entries α)
  | 0, .object _ => none
  | depth + 1, .object members => do
    let read ← members.mapM fun (name, s) => do return ((← name), (← d depth s))
    return Entries.ofList read
  | _, _ => none

/-- One of a list of words, written as a string or as the only name of an object whose value is
null. -/
def word (table : List (String × α)) : Decoder α
  | _, .string (some s) => table.lookup s
  | depth, .object [(some s, .null)] => if depth = 0 then none else table.lookup s
  | _, _ => none

/-- The result of `d`, changed by `f`, if `f` accepts it. -/
def filterMap (d : Decoder α) (f : α → Option β) : Decoder β := fun depth s => (d depth s).bind f

end Decoder

/-- A record taken apart: its fields that are written, and how deep they may be nested. -/
structure Record where
  /-- Written as an array, in which fields are missing only from the end. -/
  listed : Bool
  depth : Nat
  fields : List (String × Source)

namespace Record

variable {α : Type}

/-- The field names of an object that are known, other names for them replaced. -/
def knownFields (names : List String) (others : List (String × String)) :
    List (Option String × Source) → Option (List (String × Source))
  | [] => some []
  | (none, _) :: _ => none
  | (some name, s) :: rest => do
    let known ← knownFields names others rest
    let own := (others.lookup name).getD name
    if !names.contains own then return known
    if (known.lookup own).isSome then none
    return (own, s) :: known

/-- Takes a record with these field names apart; `others` gives other names of fields. -/
def ofSource? (names : List String) (others : List (String × String)) :
    (depth : Nat) → Source → Option Record
  | depth + 1, .object members => do
    return ⟨false, depth, ← knownFields names others members⟩
  | depth + 1, .array items =>
    if items.length ≤ names.length then some ⟨true, depth, names.zip items⟩ else none
  | _, _ => none

/-- A field that must be there. -/
def required (r : Record) (name : String) (d : Decoder α) : Option α := do
  d r.depth (← r.fields.lookup name)

/-- A field whose absence means `default`. -/
def orElse (r : Record) (name : String) (d : Decoder α) (default : α) : Option α :=
  match r.fields.lookup name with
  | some s => d r.depth s
  | none => some default

/-- A field that may be null, or absent from an object. -/
def optional (r : Record) (name : String) (d : Decoder α) : Option (Option α) :=
  match r.fields.lookup name with
  | some s => Decoder.nullable d r.depth s
  | none => if r.listed then none else some none

/-- A field that may be null or absent. -/
def maybe (r : Record) (name : String) (d : Decoder α) : Option (Option α) :=
  r.orElse name (Decoder.nullable d) none

end Record

def Decoder.record {α : Type} (names : List String) (read : Record → Option α) : Decoder α :=
  fun depth s => do read (← Record.ofSource? names [] depth s)

/-- A decoder for a record some of whose fields have other names as well. -/
def Decoder.recordWith {α : Type} (names : List String) (others : List (String × String))
    (read : Record → Option α) : Decoder α :=
  fun depth s => do read (← Record.ofSource? names others depth s)

end Automation.Json
