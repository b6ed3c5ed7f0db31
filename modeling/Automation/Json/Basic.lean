import Automation.Decimal
import Automation.Entries

/-!
# JSON values

Whole numbers and fractions are apart: a number is an integer or a binary64 number given by its bit
pattern. Objects hold their members sorted by key.
-/

namespace Automation.Json

/-- A JSON number. Integers lie between `-2^63` and `2^64 - 1`. -/
inductive Number where
  | int (value : Int)
  | float (bits : UInt64)
deriving DecidableEq, Repr

inductive Value where
  | null
  | bool (b : Bool)
  | number (n : Number)
  | string (s : String)
  | array (items : List Value)
  | object (members : List (String × Value))
deriving Repr, Inhabited

abbrev Members := Entries Value

namespace Number

def toFloat : Number → Float
  | int i => Float.ofInt i
  | float bits => Float.ofBits bits

/-- The number as a non-negative integer below `2^64`. -/
def nat? : Number → Option Nat
  | int i => if 0 ≤ i then some i.toNat else none
  | float _ => none

/-- The text of the number; an infinity or NaN reads `null`. -/
def render : Number → String
  | int i => toString i
  | float bits => (Decimal.render? bits).getD "null"

end Number

mutual

def Value.same : Value → Value → Bool
  | .null, .null => true
  | .bool a, .bool b => a == b
  | .number a, .number b => a == b
  | .string a, .string b => a == b
  | .array a, .array b => Value.sameItems a b
  | .object a, .object b => Value.sameMembers a b
  | _, _ => false

def Value.sameItems : List Value → List Value → Bool
  | [], [] => true
  | a :: as, b :: bs => a.same b && Value.sameItems as bs
  | _, _ => false

def Value.sameMembers : List (String × Value) → List (String × Value) → Bool
  | [], [] => true
  | (k, a) :: as, (l, b) :: bs => k == l && a.same b && Value.sameMembers as bs
  | _, _ => false

end

instance : BEq Value := ⟨Value.same⟩

namespace Value

def int (i : Int) : Value := .number (.int i)

def nat (n : Nat) : Value := .number (.int n)

def float (x : Float) : Value := .number (.float x.toBits)

def strings (items : List String) : Value := .array (items.map .string)

def text? : Option String → Value
  | some s => .string s
  | none => .null

/-- An object of the given members, sorted by name. -/
def record (members : List (String × Value)) : Value := .object (Entries.ofList members)

def stringMap (m : Entries String) : Value := .object (m.mapValues .string)

/-- The member of an object, or nothing for any other value. -/
def member? : Value → String → Option Value
  | .object members, name => Entries.get? members name
  | _, _ => none

def asString? : Value → Option String
  | .string s => some s
  | _ => none

def isNull : Value → Bool
  | .null => true
  | _ => false

end Value

end Automation.Json
