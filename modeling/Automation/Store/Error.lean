/-!
# Errors of the store
-/

namespace Automation.Store

inductive Error where
  | noTable (name : String)
  /-- A value that must be unique is there already. -/
  | notUnique (column : String)
  /-- The row referred to is not there. -/
  | noParent
  /-- A value is not among those allowed. -/
  | notAllowed (constraint : String)
  | migration (version : Nat) (reason : String)
  | notFound (entity id : String)
  /-- A stored value cannot be understood. -/
  | corrupt (entity id reason : String)
deriving DecidableEq, Repr

def Error.message : Error → String
  | noTable name => s!"sqlite error: no such table: {name}"
  | notUnique column => s!"sqlite error: UNIQUE constraint failed: {column}"
  | noParent => "sqlite error: FOREIGN KEY constraint failed"
  | notAllowed constraint => s!"sqlite error: CHECK constraint failed: {constraint}"
  | migration version reason => s!"migration v{version} failed: {reason}"
  | notFound entity id => s!"{entity} not found: {id}"
  | corrupt entity id reason => s!"corrupt {entity} row {id}: {reason}"

end Automation.Store
