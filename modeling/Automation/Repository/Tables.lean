import Automation.Repository.Basic
import Automation.Store.Database

/-!
# Repositories in the database

Workflows are stored as documents and triggers as rows whose times are whole milliseconds. Listings
leave out rows that do not make a trigger.
-/

namespace Automation

open Store Json

/-- An error of the store, as a repository reports it. -/
def RepositoryError.ofStore (e : Store.Error) : RepositoryError := .failed e.message

/-- An error of a change to a trigger: one that is not there is reported as such. -/
def RepositoryError.ofUpdate (id : Id) : Store.Error → RepositoryError
  | .notFound _ _ => .triggerNotFound id
  | e => ofStore e

namespace Workflow

def toRow (agentId : String) (w : Workflow) : WorkflowRow where
  id := w.id.text
  agentId := agentId
  name := w.name
  templateId := w.templateId
  schemaVersion := w.schemaVersion
  document := w.render
  isValid := w.validation.isValid

end Workflow

namespace Trigger

def toRow (t : Trigger) : TriggerRow where
  id := t.id.text
  agentId := t.agentId
  workflowId := t.workflowId.text
  type := t.type.text
  config := t.config.render
  status := t.status.text
  lastTriggered := t.lastTriggered.map (·.toMillis)
  createdAt := t.createdAt.toMillis

def ofRow (row : TriggerRow) (config : Value) : Except RepositoryError Trigger := do
  let part {α : Type} (what : String) : Option α → Except RepositoryError α
    | some a => .ok a
    | none => .error (.failed ("trigger " ++ row.id ++ ": bad " ++ what))
  let id ← part "id" (Id.ofText? row.id)
  let workflowId ← part "workflow id" (Id.ofText? row.workflowId)
  let type ← match TriggerType.ofText? row.type with
    | some type => .ok type
    | none => .error (.trigger (.unknownType row.type))
  let status ← match TriggerStatus.ofText? row.status with
    | some status => .ok status
    | none => .error (.trigger (.unknownStatus row.status))
  let lastTriggered ← match row.lastTriggered with
    | none => .ok none
    | some ms => (part "last_triggered" (Time.Instant.ofMillis? ms)).map some
  let createdAt ← part "created_at" (Time.Instant.ofMillis? row.createdAt)
  return { id, agentId := row.agentId, workflowId, type, config, status, lastTriggered, createdAt }

/-- The triggers of the rows that make one. -/
def ofRows (rows : List (TriggerRow × Value)) : List Trigger :=
  rows.filterMap fun (row, config) => (ofRow row config).toOption

end Trigger

namespace RunResult

def toRow (r : RunResult) (now : Int) : LogRow where
  id := r.executionId.text
  workflowId := r.workflowId.text
  status := r.status.text
  result := r.toJson.render
  recordedAt := now

end RunResult

namespace Store.Database

/-- The answer to a change, and the database after it. -/
def change (db : Database) (e : Store.Error → RepositoryError) (w : Write Unit) :
    Except RepositoryError Unit × Database :=
  match w db with
  | .ok ((), db') => (.ok (), db')
  | .error err => (.error (e err), db)

def look {α β : Type} (db : Database) (r : Read α) (f : α → Except RepositoryError β) :
    Except RepositoryError β :=
  match r db with
  | .ok a => f a
  | .error e => .error (.ofStore e)

/-- Answers a request at a time in milliseconds. -/
def answer (now : Int) : (r : RepositoryRequest) → Database → r.Answer × Database
  | .saveWorkflow agentId w, db => db.change .ofStore (saveWorkflow (w.toRow agentId) now)
  | .getWorkflow id, db =>
    let found : Option WorkflowRow → Except RepositoryError (Option Workflow)
      | none => .ok none
      | some row =>
        match Workflow.read row.document with
        | .ok w => .ok (some w)
        | .error e => .error (.document e)
    (db.look (workflow? id.text) found, db)
  | .saveRun r, db => db.change .ofStore (recordRun (r.toRow now))
  | .createTrigger t, db => db.change .ofStore (createTrigger t.toRow)
  | .getTrigger id, db =>
    let found : Option (TriggerRow × Value) → Except RepositoryError (Option Trigger)
      | none => .ok none
      | some (row, config) => (Trigger.ofRow row config).map some
    (db.look (trigger? id.text) found, db)
  | .activeTriggers, db => (db.look activeTriggers fun rows => .ok (Trigger.ofRows rows), db)
  | .triggersOf agentId, db =>
    (db.look (triggersOf agentId) fun rows => .ok (Trigger.ofRows rows), db)
  | .stampTrigger id time, db => db.change (.ofUpdate id) (stampTrigger id.text time.toMillis)
  | .setStatus id status, db => db.change (.ofUpdate id) (setStatus id.text status.text)

end Store.Database

end Automation
