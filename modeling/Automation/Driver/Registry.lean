import Automation.Driver.Basic
import Automation.Text.Quoted

/-!
# The driver registry

The drivers that are known, by name. It is filled once, and a name cannot be taken twice.
-/

namespace Automation

/-- Known drivers, in increasing order of their names. -/
structure Registry where
  drivers : Entries DriverInfo := []

namespace Registry

inductive Error where
  | driverNotFound (driver : String)
  | operationNotSupported (driver operation : String)
  | duplicateDriver (driver : String)
deriving DecidableEq, Repr

def Error.message : Error → String
  | .driverNotFound d => s!"driver not found: {d}"
  | .operationNotSupported d o => s!"driver `{d}` does not support operation `{o}`"
  | .duplicateDriver d => s!"driver `{d}` is already registered"

def empty : Registry := {}

def register (r : Registry) (d : DriverInfo) : Except Error Registry :=
  if Entries.has r.drivers d.name then .error (.duplicateDriver d.name)
  else .ok ⟨Entries.insert r.drivers d.name d⟩

/-- A registry of the drivers, which must have different names. -/
def ofList (ds : List DriverInfo) : Except Error Registry := ds.foldlM register empty

def find (r : Registry) (name : String) : Except Error DriverInfo :=
  match Entries.get? r.drivers name with
  | some d => .ok d
  | none => .error (.driverNotFound name)

def has (r : Registry) (name : String) : Bool := Entries.has r.drivers name

def operation (r : Registry) (driver operation : String) : Except Error Operation := do
  let d ← r.find driver
  match d.operation? operation with
  | some o => .ok o
  | none => .error (.operationNotSupported driver operation)

def supports (r : Registry) (driver operation : String) : Bool :=
  match r.operation driver operation with
  | .ok _ => true
  | .error _ => false

def requiredParams (r : Registry) (driver operation : String) : Except Error (List String) :=
  (r.operation driver operation).map (·.required)

def toList (r : Registry) : List DriverInfo := r.drivers.map (·.2)

def size (r : Registry) : Nat := r.drivers.length

/-- The names of the drivers in one line. -/
def describe (r : Registry) : String :=
  let names := String.intercalate ", " (r.toList.map fun d => Text.quoted d.name)
  "DriverRegistry \x7b drivers: [" ++ names ++ "] \x7d"

end Registry

end Automation
