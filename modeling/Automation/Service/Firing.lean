import Automation.Service.Basic
import Automation.Trigger.Settings

/-!
# Firing triggers

A trigger is fired by starting a run of its workflow in the background. While the run goes on the
trigger is taken, so that it never has two runs at once. A pass fires all triggers that are due; one
that cannot be fired does not keep the others from it.
-/

namespace Automation

/-- Why a trigger is not created or not fired. -/
inductive FiringError where
  | repository (e : RepositoryError)
  | workflowNotFound (id : Id)
  | invalid (e : Workflow.Invalid)
  | config (e : Trigger.Error)
  | stillRunning (triggerId : Id)
  /-- The run has started, but the time could not be recorded. -/
  | notStamped (triggerId executionId : Id) (e : RepositoryError)

namespace FiringError

def message : FiringError → String
  | repository e => e.message
  | workflowNotFound id => "workflow not found: " ++ id.text
  | invalid e => e.message
  | config e => e.message
  | stillRunning id =>
    "scheduler error for trigger " ++ id.text ++ ": previous run has not finished"
  | notStamped id executionId e =>
    "scheduler error for trigger " ++ id.text ++ ": run " ++ executionId.text ++
      " started but last_triggered not saved: " ++ e.message

end FiringError

structure Firing where
  triggerId : Id
  workflowId : Id
  executionId : Id
  firedAt : Time.Instant

/-- What a pass has done: the runs started, and the triggers that could not be fired with the
reasons. -/
structure PassReport where
  fired : List Firing := []
  failures : List (Id × FiringError) := []

namespace TriggeredRun

/-- The run in the background: it is recorded if it took place, and the trigger is free
afterwards. -/
def process (engine : Engine) (run : TriggeredRun) :
    Serving (Except Workflow.Invalid RunResult) := do
  let outcome ← Serving.ofRunning engine (engine.execute run.workflow run.executionId)
  match outcome with
  | .ok result =>
    let _ ← Serving.repository (.saveRun result)
  | .error _ => pure ()
  Serving.release run.triggerId
  return outcome

end TriggeredRun

namespace Trigger

def register (agentId : String) (workflowId : Id) (type : TriggerType) (config : Json.Value) :
    Serving (Except FiringError Trigger) := do
  match ← Serving.repository (.getWorkflow workflowId) with
  | .error e => return .error (.repository e)
  | .ok none => return .error (.workflowNotFound workflowId)
  | .ok (some _) =>
    let id ← Serving.freshId
    let now ← Serving.now
    match Trigger.create id now agentId workflowId type config with
    | .error e => return .error (.config e)
    | .ok t =>
      match ← Serving.repository (.createTrigger t) with
      | .error e => return .error (.repository e)
      | .ok () => return .ok t

/-- The trigger with an id and its workflow, which must still be valid. -/
def prepare (registry : Registry) (id : Id) :
    Serving (Except FiringError (Trigger × Workflow)) := do
  match ← Serving.repository (.getTrigger id) with
  | .error e => return .error (.repository e)
  | .ok none => return .error (.repository (.triggerNotFound id))
  | .ok (some t) =>
    match ← Serving.repository (.getWorkflow t.workflowId) with
    | .error e => return .error (.repository e)
    | .ok none => return .error (.workflowNotFound t.workflowId)
    | .ok (some w) =>
      match w.revalidate registry with
      | .error e => return .error (.invalid e)
      | .ok () => return .ok (t, w)

/-- Starts a run for a trigger that has been taken, whatever its type and status. -/
def startRun (engine : Engine) (id : Id) (now : Time.Instant) (w : Workflow) :
    Serving (Except FiringError Firing) := do
  let executionId ← Serving.freshId
  Serving.launch engine ⟨id, executionId, w⟩
  match ← Serving.repository (.stampTrigger id now) with
  | .error e => return .error (.notStamped id executionId e)
  | .ok () => return .ok ⟨id, w.id, executionId, now⟩

def fire (engine : Engine) (id : Id) (now : Time.Instant) :
    Serving (Except FiringError Firing) := do
  if ← Serving.claim id then
    match ← prepare engine.registry id with
    | .error e =>
      Serving.release id
      return .error e
    | .ok (_, w) => startRun engine id now w
  else return .error (.stillRunning id)

/-- The active triggers that are due and not taken, in the order in which they are listed. -/
def due (now : Time.Instant) : Serving (Except RepositoryError (List Trigger)) := do
  match ← Serving.repository .activeTriggers with
  | .error e => return .error e
  | .ok active =>
    let taken ← Serving.claimed
    return .ok (active.filter fun t => t.isDue now && !taken.contains t.id)

def fireAll (engine : Engine) (now : Time.Instant) (report : PassReport) :
    List Trigger → Serving PassReport
  | [] => .done report
  | t :: rest => do
    match ← fire engine t.id now with
    | .ok f => fireAll engine now { report with fired := report.fired ++ [f] } rest
    | .error e => fireAll engine now { report with failures := report.failures ++ [(t.id, e)] } rest

/-- One pass: fires all triggers that are due. It fails only if they cannot be listed. -/
def pass (engine : Engine) (now : Time.Instant) : Serving (Except RepositoryError PassReport) := do
  match ← due now with
  | .error e => return .error e
  | .ok found => return .ok (← fireAll engine now {} found)

/-- One round of the search for due triggers: a pass and the wait behind it. The answer tells
whether another round follows. -/
def searchRound (engine : Engine) (settings : PollSettings) : Serving Bool := do
  if ← Serving.keepsPolling then
    let now ← Serving.now
    let failed := match ← pass engine now with
      | .ok _ => false
      | .error _ => true
    match settings.waitMs? failed with
    | none => return false
    | some ms => return !(← Serving.restPolling ms)
  else return false

end Trigger

end Automation
