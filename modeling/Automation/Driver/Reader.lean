import Automation.Driver.Bench
import Automation.Driver.Standard
import Automation.Json.Access

/-!
# Drivers described in JSON

A description names a driver and its operations and holds its script: fixed answers, failures,
delays and calls that fail at first, or else the outcomes to replay.
-/

namespace Automation

open Json

namespace Driver

private def nats (v : Value) (name : String) : Entries Nat :=
  (v.membersAt name).filterMap fun (k, x) => x.asInt?.map fun i => (k, i.toNat)

/-- The driver of a description. -/
def ofJson? (v : Value) : Option Driver := do
  let operations ← (Decoder.list Operation.decode).ofValue? (.array (v.itemsAt "operations"))
  let info : DriverInfo := {
    name := v.textAt "name", description := v.textAt "description", operations }
  if v.hasAt "outcomes" then
    let outcomes := (v.membersAt "outcomes").mapValues fun list =>
      list.items.filterMap Outcome.decode.ofValue?
    return .replay { info, outcomes }
  else
    return .dryRun {
      info
      responses := v.membersAt "responses"
      failures := v.textMapAt "failures"
      delays := nats v "delays_ms"
      flaky := nats v "flaky" }

def standardAtWork : List Driver := (Driver.services.map fun i => .dryRun { info := i }) ++ [.http]

end Driver

namespace Bench

def standard : Except Registry.Error Bench := ofList Driver.standardAtWork

/-- The drivers described in a list, and the names of those in order; without a list the standard
drivers. The standard drivers stay in addition if they are asked for, except those of the same
names. -/
def ofJson (v : Value) (withStandard : Bool) : Except Registry.Error (Bench × List String) := do
  match v with
  | .array specs =>
    let custom := specs.filterMap Driver.ofJson?
    let names := custom.map (·.info.name)
    let kept := if withStandard then
        Driver.standardAtWork.filter fun d => !names.contains d.info.name
      else []
    return (← ofList (kept ++ custom), names)
  | _ => return (← standard, [])

end Bench

def Call.toJson (c : Call) : Value :=
  .record [("operation", .string c.operation), ("parameters", .object c.parameters),
    ("context_keys", .strings c.contextKeys)]

def Bench.callsJson (b : Bench) (names : List String) : Value :=
  .array (names.filterMap fun name => (Entries.get? b name).map fun d =>
    .record [("driver", .string name), ("calls", .array (d.calls.map Call.toJson))])

end Automation
