import Automation.Run.Record
import Automation.Trigger.Basic
import Automation.Workflow.Compile

/-!
# Repositories

What the service reads and writes: workflows, triggers and accounts of runs. A repository is
anything that answers these requests.
-/

namespace Automation

inductive RepositoryError where
  | failed (reason : String)
  | triggerNotFound (id : Id)
  /-- A stored workflow cannot be read. -/
  | document (e : Workflow.DocumentError)
  /-- A stored trigger cannot be understood. -/
  | trigger (e : Trigger.Error)

def RepositoryError.message : RepositoryError → String
  | failed reason => s!"repository error: {reason}"
  | triggerNotFound id => "trigger not found: " ++ id.text
  | document e => e.message
  | trigger e => e.message

inductive RepositoryRequest where
  /-- Store a workflow for an agent, in place of one with the same id. -/
  | saveWorkflow (agentId : String) (w : Workflow)
  | getWorkflow (id : Id)
  /-- Record a run. -/
  | saveRun (r : RunResult)
  | createTrigger (t : Trigger)
  | getTrigger (id : Id)
  | activeTriggers
  /-- The triggers of an agent, oldest first. -/
  | triggersOf (agentId : String)
  /-- Record when a trigger fired. -/
  | stampTrigger (id : Id) (time : Time.Instant)
  | setStatus (id : Id) (status : TriggerStatus)

namespace RepositoryRequest

/-- What a request is answered with if it does not fail. -/
abbrev Result : RepositoryRequest → Type
  | getWorkflow _ => Option Workflow
  | getTrigger _ => Option Trigger
  | activeTriggers | triggersOf _ => List Trigger
  | saveWorkflow _ _ | saveRun _ | createTrigger _ | stampTrigger _ _ | setStatus _ _ => Unit

abbrev Answer (r : RepositoryRequest) : Type := Except RepositoryError r.Result

def name : RepositoryRequest → String
  | saveWorkflow _ _ => "save_workflow"
  | getWorkflow _ => "get_workflow"
  | saveRun _ => "save_execution_log"
  | createTrigger _ => "create_trigger"
  | getTrigger _ => "get_trigger"
  | activeTriggers => "list_active_triggers"
  | triggersOf _ => "list_triggers"
  | stampTrigger _ _ => "update_last_triggered"
  | setStatus _ _ => "set_status"

end RepositoryRequest

end Automation
