import Automation.Driver.DryRun

/-!
# Drivers that replay outcomes

A replaying driver has a list of outcomes for an operation and gives one after the other; the last
one repeats. It declares operations but does not check parameters.
-/

namespace Automation

/-- A driver that gives listed outcomes. -/
structure Replay where
  info : DriverInfo
  outcomes : Entries (List Outcome) := []
  /-- The calls received, latest first. -/
  received : List Call := []

namespace Replay

def answer (d : Replay) (operation : String) : Outcome × Replay :=
  match Entries.get? d.outcomes operation with
  | some (o :: p :: rest) =>
    (o, { d with outcomes := Entries.insert d.outcomes operation (p :: rest) })
  | some [o] => (o, d)
  | _ => (.failed "no outcome scripted", d)

end Replay

end Automation
