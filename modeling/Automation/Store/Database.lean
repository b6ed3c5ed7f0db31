import Automation.Json.Fault
import Automation.Json.Printer
import Automation.Json.Reader
import Automation.Store.Error

/-!
# The database

Four tables: workflows as documents, triggers, the accounts of runs and the turns of conversations.
A column holds a text or a whole number; what a text means is decided by whoever reads it. Rows are
kept in the order in which they were written, and every listing states its own order.
-/

namespace Automation.Store

open Json

structure WorkflowRow where
  id : String
  agentId : String
  name : String
  templateId : Option String := none
  schemaVersion : Nat := 1
  document : String
  isValid : Bool
  createdAt : Int := 0
  updatedAt : Int := 0
deriving DecidableEq, Repr

structure TriggerRow where
  id : String
  agentId : String
  workflowId : String
  type : String
  /-- JSON text. -/
  config : String
  status : String
  lastTriggered : Option Int := none
  createdAt : Int
deriving DecidableEq, Repr

structure LogRow where
  id : String
  workflowId : String
  status : String
  /-- JSON text. -/
  result : String
  recordedAt : Int
deriving DecidableEq, Repr

structure MessageRow where
  id : Nat
  agentId : String
  sessionId : String
  role : String
  content : String
  createdAt : Int
deriving DecidableEq, Repr

/-- The tables. -/
structure Database where
  /-- Whether the tables exist. -/
  migrated : Bool := false
  workflows : List WorkflowRow := []
  triggers : List TriggerRow := []
  logs : List LogRow := []
  messages : List MessageRow := []
deriving DecidableEq, Repr

/-- A change of the database that gives an answer, or fails and changes nothing. -/
abbrev Write (α : Type) := Database → Except Error (α × Database)

/-- What is read from the database. -/
abbrev Read (α : Type) := Database → Except Error α

namespace Database

def schemaVersion : Nat := 2

def empty : Database := { migrated := true }

def migrate (db : Database) : Database := { db with migrated := true }

/-- The version of the tables that exist. -/
def version : Read Nat := fun db =>
  if db.migrated then .ok schemaVersion
  else .error (.migration 0 "failed to read current version: no such table: _migrations")

def tables (db : Database) : List String :=
  if db.migrated then
    ["_migrations", "conversation_messages", "execution_logs", "triggers", "workflows"]
  else []

/-- A table can be used only if it exists. -/
def withTable {α : Type} (table : String) (f : Except Error α) (db : Database) : Except Error α :=
  if db.migrated then f else .error (.noTable table)

/-- The first rows, as many as the limit says; a negative limit is none. -/
def limited {α : Type} (limit : Int) (rows : List α) : List α :=
  if limit < 0 then rows else rows.take limit.toNat

/-! ## Workflows -/

/-- Stores a workflow, in place of one with the same id; that one's time of creation stays. -/
def saveWorkflow (row : WorkflowRow) (now : Int) : Write Unit := fun db =>
  db.withTable "workflows" <|
    match db.workflows.find? (·.id = row.id) with
    | some old =>
      let row := { row with createdAt := old.createdAt, updatedAt := now }
      .ok ((), { db with workflows := db.workflows.map fun w => if w.id = row.id then row else w })
    | none =>
      let row := { row with createdAt := now, updatedAt := now }
      .ok ((), { db with workflows := db.workflows ++ [row] })

def workflow? (id : String) : Read (Option WorkflowRow) := fun db =>
  db.withTable "workflows" (.ok (db.workflows.find? (·.id = id)))

def workflowsOf (agentId : String) : Read (List WorkflowRow) := fun db =>
  let before (a b : WorkflowRow) : Bool :=
    b.updatedAt < a.updatedAt || (b.updatedAt == a.updatedAt && !(a.id < b.id))
  db.withTable "workflows" (.ok ((db.workflows.filter (·.agentId = agentId)).mergeSort before))

def countWorkflows : Read Nat := fun db => db.withTable "workflows" (.ok db.workflows.length)

/-! ## Triggers -/

def triggerTypes : List String := ["time_based", "webhook", "manual", "db_change"]

def triggerStatuses : List String := ["active", "paused"]

/-- A status must be among those allowed. -/
def checkStatus (status : String) : Except Error Unit :=
  if triggerStatuses.contains status then .ok ()
  else .error (.notAllowed "status IN ('active','paused')")

/-- A row must have an allowed type and status, an id of its own and a stored workflow. -/
def checkTrigger (db : Database) (row : TriggerRow) : Except Error Unit := do
  if !triggerTypes.contains row.type then
    throw (.notAllowed "trigger_type IN ('time_based','webhook','manual','db_change')")
  checkStatus row.status
  if db.triggers.any (·.id = row.id) then throw (.notUnique "triggers.id")
  if !db.workflows.any (·.id = row.workflowId) then throw .noParent

def createTrigger (row : TriggerRow) : Write Unit := fun db =>
  db.withTable "triggers" do
    db.checkTrigger row
    return ((), { db with triggers := db.triggers ++ [row] })

def readConfig (row : TriggerRow) : Except Error (TriggerRow × Value) :=
  match Value.read? row.config with
  | some config => .ok (row, config)
  | none =>
    let reason := ((Fault.ofText? row.config).map Fault.message).getD ""
    .error (.corrupt "trigger" row.id ("config is not JSON: " ++ reason))

def trigger? (id : String) : Read (Option (TriggerRow × Value)) := fun db =>
  db.withTable "triggers" <|
    match db.triggers.find? (·.id = id) with
    | some row => (readConfig row).map some
    | none => .ok none

/-- The rows in the order of creation, of the same time in the order of their ids. -/
def byCreation (rows : List TriggerRow) : List TriggerRow :=
  rows.mergeSort fun a b =>
    a.createdAt < b.createdAt || (a.createdAt == b.createdAt && !(b.id < a.id))

/-- The triggers that satisfy a condition, oldest first. -/
def triggersWhere (p : TriggerRow → Bool) : Read (List (TriggerRow × Value)) := fun db =>
  db.withTable "triggers" ((byCreation (db.triggers.filter p)).mapM readConfig)

def activeTriggers : Read (List (TriggerRow × Value)) := triggersWhere (·.status == "active")

def triggersOf (agentId : String) : Read (List (TriggerRow × Value)) :=
  triggersWhere (·.agentId == agentId)

/-- Changes the trigger with an id, which must be there. -/
def updateTrigger (id : String) (check : Except Error Unit) (f : TriggerRow → TriggerRow) :
    Write Unit := fun db =>
  db.withTable "triggers" do
    if !db.triggers.any (·.id = id) then throw (.notFound "trigger" id)
    check
    return ((), { db with triggers := db.triggers.map fun t => if t.id = id then f t else t })

def stampTrigger (id : String) (atMillis : Int) : Write Unit :=
  updateTrigger id (.ok ()) fun t => { t with lastTriggered := some atMillis }

def setStatus (id status : String) : Write Unit :=
  updateTrigger id (checkStatus status) fun t => { t with status }

/-- Overwrites a configuration with any text; the answer is the number of rows changed. -/
def overwriteConfig (id config : String) : Write Nat := fun db =>
  db.withTable "triggers" <| .ok (db.triggers.countP (·.id = id),
    { db with triggers := db.triggers.map fun t => if t.id = id then { t with config } else t })

/-! ## Accounts of runs -/

/-- Records a run. A row with the same id makes room for it. -/
def recordRun (row : LogRow) : Write Unit := fun db =>
  db.withTable "execution_logs" <|
    .ok ((), { db with logs := db.logs.filter (·.id ≠ row.id) ++ [row] })

def readResult (row : LogRow) : Except Error (LogRow × Value) :=
  match Value.read? row.result with
  | some result => .ok (row, result)
  | none =>
    let reason := ((Fault.ofText? row.result).map Fault.message).getD ""
    .error (.corrupt "execution log" row.id reason)

/-- The latest runs of a workflow, the latest first. -/
def runsOf (workflowId : String) (limit : Int) : Read (List (LogRow × Value)) := fun db =>
  let rows := (db.logs.filter (·.workflowId = workflowId)).reverse
  let latest := rows.mergeSort fun a b => !(a.recordedAt < b.recordedAt)
  db.withTable "execution_logs" ((limited limit latest).mapM readResult)

def countRuns : Read Nat := fun db => db.withTable "execution_logs" (.ok db.logs.length)

/-- Overwrites an account with any text; the answer is the number of rows changed. -/
def overwriteResult (id result : String) : Write Nat := fun db =>
  db.withTable "execution_logs" <| .ok (db.logs.countP (·.id = id),
    { db with logs := db.logs.map fun l => if l.id = id then { l with result } else l })

/-! ## Conversations -/

/-- Adds a turn; the answer is its number. -/
def appendMessage (agentId sessionId role content : String) (now : Int) : Write Nat := fun db =>
  db.withTable "conversation_messages" <|
    if role != "user" && role != "assistant" then
      .error (.notAllowed "role IN ('user','assistant')")
    else
      let id := db.messages.length + 1
      .ok (id, { db with
        messages := db.messages ++ [⟨id, agentId, sessionId, role, content, now⟩] })

def recentMessages (agentId sessionId : String) (limit : Int) : Read (List MessageRow) := fun db =>
  let rows := db.messages.filter fun m => m.agentId = agentId && m.sessionId = sessionId
  db.withTable "conversation_messages" (.ok (limited limit rows.reverse).reverse)

end Database

end Automation.Store
