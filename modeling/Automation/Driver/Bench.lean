import Automation.Driver.Registry
import Automation.Driver.Replay
import Automation.Driver.Standard
import Automation.Http.Request

/-!
# Drivers at work

The drivers behind a registry, with what they remember between calls. A call is received at once and
answered after the driver's delay.
-/

namespace Automation

inductive Driver where
  | dryRun (d : DryRun)
  | replay (d : Replay)
  /-- Sends requests, which reach nobody. -/
  | http

namespace Driver

def info : Driver → DriverInfo
  | dryRun d => d.info
  | replay d => d.info
  | http => httpInfo

def calls : Driver → List Call
  | dryRun d => d.calls
  | replay d => d.received.reverse
  | http => []

/-- Receives a call: how many milliseconds the answer takes, and the driver after it. -/
def receive (d : Driver) (operation : String) (parameters context : Json.Members) : Nat × Driver :=
  match d with
  | dryRun d => (d.delay operation, .dryRun (d.record operation parameters (Entries.keys context)))
  | replay d =>
    (0, .replay { d with received := ⟨operation, parameters, Entries.keys context⟩ :: d.received })
  | http => (0, http)

/-- Answers a call received before; `id` is for an answer that needs a fresh one. -/
def answer (d : Driver) (id : Id) (operation : String) (parameters : Json.Members) :
    Outcome × Driver :=
  match d with
  | dryRun d =>
    let (o, d) := d.answer id operation parameters
    (o, .dryRun d)
  | replay d =>
    let (o, d) := d.answer operation
    (o, .replay d)
  | http => (Http.call Http.nobody operation parameters, http)

end Driver

/-- Drivers at work, by name. -/
abbrev Bench := Entries Driver

namespace Bench

def registry (b : Bench) : Registry := ⟨b.mapValues Driver.info⟩

/-- The bench of the drivers, which must have different names. -/
def ofList (ds : List Driver) : Except Registry.Error Bench :=
  ds.foldlM (fun (b : Bench) d =>
    if Entries.has b d.info.name then .error (.duplicateDriver d.info.name)
    else .ok (Entries.insert b d.info.name d)) []

end Bench

end Automation
