import Automation.Trigger.Schedule
import Automation.Workflow.Basic

/-!
# Triggers

A trigger says what makes a stored workflow run. Only an active trigger with a schedule becomes due
by itself; the others wait to be fired.
-/

namespace Automation

open Json

inductive TriggerType where
  | timeBased
  | webhook
  | manual
  | dbChange
deriving DecidableEq, Repr

/-- Whether a trigger is looked at when due ones are sought. -/
inductive TriggerStatus where
  | active
  | paused
deriving DecidableEq, Repr

namespace TriggerType

def all : List TriggerType := [timeBased, webhook, manual, dbChange]

def text : TriggerType → String
  | timeBased => "time_based"
  | webhook => "webhook"
  | manual => "manual"
  | dbChange => "db_change"

def ofText? (s : String) : Option TriggerType := all.find? (·.text == s)

def decode : Decoder TriggerType := Decoder.word (all.map fun t => (t.text, t))

end TriggerType

namespace TriggerStatus

def all : List TriggerStatus := [active, paused]

def text : TriggerStatus → String
  | active => "active"
  | paused => "paused"

def ofText? (s : String) : Option TriggerStatus := all.find? (·.text == s)

def decode : Decoder TriggerStatus := Decoder.word (all.map fun t => (t.text, t))

end TriggerStatus

/-- A rule for when a stored workflow runs. -/
structure Trigger where
  id : Id
  agentId : String
  workflowId : Id
  type : TriggerType
  config : Value
  status : TriggerStatus := .active
  lastTriggered : Option Time.Instant := none
  createdAt : Time.Instant

namespace Trigger

inductive Error where
  | unknownType (text : String)
  | unknownStatus (text : String)
  | schedule (e : Schedule.Error)

def Error.message : Error → String
  | unknownType t => s!"invalid trigger config: unknown trigger type `{t}`"
  | unknownStatus t => s!"invalid trigger config: unknown trigger status `{t}`"
  | schedule (.invalidCron expression) => (Schedule.Error.invalidCron expression).reason
  | schedule e => "invalid trigger config: " ++ e.reason

/-- A new active trigger; the configuration of a scheduled one must give a schedule. -/
def create (id : Id) (now : Time.Instant) (agentId : String) (workflowId : Id) (type : TriggerType)
    (config : Value) : Except Error Trigger :=
  let t : Trigger := { id, agentId, workflowId, type, config, createdAt := now }
  if type = .timeBased then
    match Schedule.ofConfig config with
    | .ok _ => .ok t
    | .error e => .error (.schedule e)
  else .ok t

def isActive (t : Trigger) : Bool := t.status = .active

def schedule (t : Trigger) : Except Error (Option Schedule) :=
  match t.type with
  | .timeBased =>
    match Schedule.ofConfig t.config with
    | .ok s => .ok (some s)
    | .error e => .error (.schedule e)
  | _ => .ok none

/-- Whether the trigger should fire at `now` by itself. -/
def checkDue (t : Trigger) (now : Time.Instant) : Except Error Bool :=
  if !t.isActive then .ok false
  else do
    match ← t.schedule with
    | none => return false
    | some s =>
      match t.lastTriggered with
      | none => return true
      | some last =>
        match s.nextDue? last with
        | none => return false
        | some due => return due.le now

/-- Whether the trigger should fire at `now`; one without a usable schedule never should. -/
def isDue (t : Trigger) (now : Time.Instant) : Bool :=
  match t.checkDue now with
  | .ok due => due
  | .error _ => false

def decode : Decoder Trigger :=
  Decoder.record ["trigger_id", "agent_id", "workflow_id", "trigger_type", "config", "status",
      "last_triggered", "created_at"] fun r => do
    return {
      id := ← r.required "trigger_id" Id.decode
      agentId := ← r.required "agent_id" Decoder.string
      workflowId := ← r.required "workflow_id" Id.decode
      type := ← r.required "trigger_type" TriggerType.decode
      config := ← r.required "config" Decoder.value
      status := ← r.required "status" TriggerStatus.decode
      lastTriggered := ← r.optional "last_triggered" Time.Instant.decode
      createdAt := ← r.required "created_at" Time.Instant.decode }

def toJson (t : Trigger) : Value :=
  .record [("trigger_id", .string t.id.text), ("agent_id", .string t.agentId),
    ("workflow_id", .string t.workflowId.text), ("trigger_type", .string t.type.text),
    ("config", t.config), ("status", .string t.status.text),
    ("last_triggered", .text? (t.lastTriggered.map (·.render))),
    ("created_at", .string t.createdAt.render)]

end Trigger

end Automation
