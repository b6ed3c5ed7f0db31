import Automation.Driver.Basic
import Automation.Id

/-!
# Dry-run drivers

A dry-run driver declares operations like any other but contacts nobody: it records each call and
answers from a script. For an operation the script may hold a fixed answer, a fixed failure, a
delay, and a number of calls that fail before the operation starts to succeed. Without a script an
accepted call is answered with a description of itself.
-/

namespace Automation

structure Call where
  operation : String
  parameters : Json.Members
  /-- The steps whose outputs the caller could see. -/
  contextKeys : List String

/-- A driver that answers from a script. -/
structure DryRun where
  info : DriverInfo
  responses : Entries Json.Value := []
  failures : Entries String := []
  /-- Milliseconds before the answer. -/
  delays : Entries Nat := []
  /-- How many calls are still to fail. -/
  flaky : Entries Nat := []
  /-- The calls received, latest first. -/
  received : List Call := []

namespace DryRun

inductive Error where
  | operationNotFound (driver operation : String)
  | missingParams (operation : String) (names : List String)
  | executionFailed (operation reason : String)

def Error.message : Error → String
  | .operationNotFound d o => s!"operation not found: `{o}` on driver `{d}`"
  | .missingParams o names =>
    let list := String.intercalate ", " names
    s!"invalid parameters for `{o}`: missing {list}"
  | .executionFailed o reason => s!"execution failed for `{o}`: {reason}"

def calls (d : DryRun) : List Call := d.received.reverse

def callCount (d : DryRun) (operation : String) : Nat :=
  (d.received.filter (·.operation == operation)).length

def record (d : DryRun) (operation : String) (parameters : Json.Members)
    (contextKeys : List String) : DryRun :=
  { d with received := ⟨operation, parameters, contextKeys⟩ :: d.received }

def delay (d : DryRun) (operation : String) : Nat := (Entries.get? d.delays operation).getD 0

/-- The required parameters that are absent or null. -/
def missing (o : Operation) (parameters : Json.Members) : List String :=
  o.required.filter fun p => ((Entries.get? parameters p).getD .null).isNull

/-- The operation must be declared and its required parameters given. -/
def check (d : DryRun) (operation : String) (parameters : Json.Members) : Except Error Unit :=
  match d.info.operation? operation with
  | none => .error (.operationNotFound d.info.name operation)
  | some o =>
    match missing o parameters with
    | [] => .ok ()
    | names => .error (.missingParams operation names)

/-- What an accepted call without a script is answered with. -/
def accepted (d : DryRun) (id : Id) (operation : String) (parameters : Json.Members) : Json.Value :=
  .record [("id", .string id.text), ("driver", .string d.info.name),
    ("operation", .string operation), ("status", .string "accepted"),
    ("parameters", .object parameters)]

/-- The scripted answer to a call that passed the check, and the driver after it. A fixed failure
comes first, then the calls that are still to fail, then a fixed answer. -/
def scripted (d : DryRun) (id : Id) (operation : String) (parameters : Json.Members) :
    Except Error Json.Value × DryRun :=
  match Entries.get? d.failures operation with
  | some reason => (.error (.executionFailed operation reason), d)
  | none =>
    match (Entries.get? d.flaky operation).getD 0 with
    | left + 1 =>
      (.error (.executionFailed operation "transient failure"),
        { d with flaky := Entries.insert d.flaky operation left })
    | 0 =>
      match Entries.get? d.responses operation with
      | some response => (.ok response, d)
      | none => (.ok (d.accepted id operation parameters), d)

/-- The answer to a call, and the driver after it; `id` is for an answer that needs a fresh one. -/
def answer (d : DryRun) (id : Id) (operation : String) (parameters : Json.Members) :
    Outcome × DryRun :=
  match d.check operation parameters with
  | .error e => (.failed e.message, d)
  | .ok () =>
    match d.scripted id operation parameters with
    | (.ok output, next) => (.ok output, next)
    | (.error e, next) => (.failed e.message, next)

end DryRun

end Automation
