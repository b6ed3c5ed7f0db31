import Automation.Json.Basic

/-!
# JSON as written

The structure of a JSON text before it is given a meaning: repeated names are still there, in order
of appearance, and a number too large for binary64 or a string with half a surrogate pair is kept as
a part without a value. Parts nobody asks for may be of that kind; parts that are read may not.
-/

namespace Automation.Json

/-- A JSON text taken apart. -/
inductive Source where
  | null
  | bool (b : Bool)
  /-- Without a value when the number is out of range. -/
  | number (n : Option Number)
  /-- Without a value when a surrogate stands alone. -/
  | string (s : Option String)
  | array (items : List Source)
  | object (members : List (Option String × Source))
deriving Inhabited

/-- How deep arrays and objects may be nested in the parts that are read. -/
def maxDepth : Nat := 127

mutual

/-- The value of a source nested at most `depth` deep; of a repeated name the last one counts. -/
def Source.value? (depth : Nat) : Source → Option Value
  | .null => some .null
  | .bool b => some (.bool b)
  | .number n => n.map .number
  | .string s => s.map .string
  | .array items =>
    if depth = 0 then none else (Source.values? (depth - 1) items).map .array
  | .object members =>
    if depth = 0 then none else (Source.members? (depth - 1) members).map fun ms =>
      .object (Entries.ofList ms)

def Source.values? (depth : Nat) : List Source → Option (List Value)
  | [] => some []
  | s :: rest => do
    let v ← s.value? depth
    return v :: (← Source.values? depth rest)

def Source.members? (depth : Nat) : List (Option String × Source) → Option (List (String × Value))
  | [] => some []
  | (name, s) :: rest => do
    let k ← name
    let v ← s.value? depth
    return (k, v) :: (← Source.members? depth rest)

end

mutual

/-- A value as it would be written. -/
def Value.source : Value → Source
  | .null => .null
  | .bool b => .bool b
  | .number n => .number (some n)
  | .string s => .string (some s)
  | .array items => .array (Value.sources items)
  | .object members => .object (Value.memberSources members)

def Value.sources : List Value → List Source
  | [] => []
  | v :: rest => v.source :: Value.sources rest

def Value.memberSources : List (String × Value) → List (Option String × Source)
  | [] => []
  | (k, v) :: rest => (some k, v.source) :: Value.memberSources rest

end

end Automation.Json
