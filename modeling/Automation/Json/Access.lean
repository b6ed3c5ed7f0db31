import Automation.Json.Decode

/-!
# Looking into JSON values

Members of an object by name, as what they are expected to be. A member that is absent or of another
kind counts as empty.
-/

namespace Automation.Json.Value

def hasAt (v : Value) (name : String) : Bool := (v.member? name).isSome

def valueAt (v : Value) (name : String) : Value := (v.member? name).getD .null

def textAt? (v : Value) (name : String) : Option String := (v.valueAt name).asString?

def textAt (v : Value) (name : String) : String := (v.textAt? name).getD ""

def items : Value → List Value
  | array items => items
  | _ => []

def members : Value → Members
  | object members => members
  | _ => []

def texts (v : Value) : List String := v.items.filterMap asString?

def textMap (v : Value) : Entries String :=
  v.members.filterMap fun (k, x) => x.asString?.map fun s => (k, s)

def asInt? : Value → Option Int
  | number (.int i) => some i
  | _ => none

def itemsAt (v : Value) (name : String) : List Value := (v.valueAt name).items

def membersAt (v : Value) (name : String) : Members := (v.valueAt name).members

def textsAt (v : Value) (name : String) : List String := (v.valueAt name).texts

def textMapAt (v : Value) (name : String) : Entries String := (v.valueAt name).textMap

def intAt? (v : Value) (name : String) : Option Int := (v.valueAt name).asInt?

def natAt? (v : Value) (name : String) : Option Nat := (v.intAt? name).map Int.toNat

def flagAt (v : Value) (name : String) : Bool := v.valueAt name == bool true

/-- The member as it is read by a decoder; without one, or if it is null, `default`. -/
def readAt? {α : Type} (v : Value) (name : String) (d : Decoder α) (default : α) : Option α :=
  match v.valueAt name with
  | null => some default
  | x => d.ofValue? x

/-- The object with a member in place of any other of that name. -/
def put (v : Value) (name : String) (x : Value) : Value :=
  match v with
  | object ms => object (Entries.insert ms name x)
  | v => v

def without (v : Value) (names : List String) : Value :=
  match v with
  | object ms => object (ms.filter fun (k, _) => !names.contains k)
  | v => v

def orNull : Option Value → Value
  | some v => v
  | none => null

end Automation.Json.Value
