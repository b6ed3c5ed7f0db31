import Automation.Repository.Basic

/-!
# Repositories in memory

Workflows with their owners, and triggers and runs in the order in which they were recorded.
-/

namespace Automation

structure OwnedWorkflow where
  agentId : String
  workflow : Workflow

structure Memory where
  workflows : List OwnedWorkflow := []
  runs : List RunResult := []
  triggers : List Trigger := []

namespace Memory

def workflow? (m : Memory) (id : Id) : Option Workflow :=
  (m.workflows.find? (·.workflow.id = id)).map (·.workflow)

def owned (m : Memory) (agentId : String) : List Id :=
  (m.workflows.filter (·.agentId = agentId)).map (·.workflow.id)

def saveWorkflow (m : Memory) (agentId : String) (w : Workflow) : Memory :=
  { m with workflows := m.workflows.filter (·.workflow.id ≠ w.id) ++ [⟨agentId, w⟩] }

def trigger? (m : Memory) (id : Id) : Option Trigger := m.triggers.find? (·.id = id)

def createTrigger (m : Memory) (t : Trigger) : Except RepositoryError Memory :=
  if m.triggers.any (·.id = t.id) then
    .error (.failed ("trigger " ++ t.id.text ++ " already exists"))
  else .ok { m with triggers := m.triggers ++ [t] }

def updateTrigger (m : Memory) (id : Id) (f : Trigger → Trigger) : Except RepositoryError Memory :=
  if m.triggers.any (·.id = id) then
    .ok { m with triggers := m.triggers.map fun t => if t.id = id then f t else t }
  else .error (.triggerNotFound id)

/-- The answer of a change that may fail, and the memory after it. -/
def written (m : Memory) :
    Except RepositoryError Memory → Except RepositoryError Unit × Memory
  | .ok m' => (.ok (), m')
  | .error e => (.error e, m)

def answer : (r : RepositoryRequest) → Memory → r.Answer × Memory
  | .saveWorkflow agentId w, m => (.ok (), m.saveWorkflow agentId w)
  | .getWorkflow id, m => (.ok (m.workflow? id), m)
  | .saveRun r, m => (.ok (), { m with runs := m.runs ++ [r] })
  | .createTrigger t, m => m.written (m.createTrigger t)
  | .getTrigger id, m => (.ok (m.trigger? id), m)
  | .activeTriggers, m => (.ok (m.triggers.filter (·.isActive)), m)
  | .triggersOf agentId, m => (.ok (m.triggers.filter (·.agentId = agentId)), m)
  | .stampTrigger id time, m =>
    m.written (m.updateTrigger id fun t => { t with lastTriggered := some time })
  | .setStatus id status, m => m.written (m.updateTrigger id fun t => { t with status })

end Memory

end Automation
