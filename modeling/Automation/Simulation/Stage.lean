import Automation.Json.Access
import Automation.Simulation.Run
import Automation.Template.Source

/-!
# Stages

A stage is a service in its world together with the workflows and triggers that have come up, so
that a later step can refer to them by number.
-/

namespace Automation.Simulation

open Json

structure Stage where
  service : Service
  world : World
  /-- The drivers whose calls are shown. -/
  shown : List String := []
  /-- Whether nothing but responses is shown. -/
  closed : Bool := false
  policy : ErrorPolicy := .continueOnFailure
  workflows : List Id := []
  triggers : List Id := []
  /-- Runs to be waited for later. -/
  kept : List Id := []

namespace Stage

inductive Error where
  | repository (e : RepositoryError)
  | firing (e : FiringError)
  | run (e : Workflow.Invalid)
  | document (e : Workflow.DocumentError)
  | blueprint (e : Blueprint.Error)
  | registry (e : Registry.Error)
  | triggerType (text : String)
  | store (e : Store.Error)
  | alreadyRunning
  | noInstance
  /-- The step waits for something that never comes. -/
  | stuck
  /-- There is no such step. -/
  | unknown

abbrev Answer := Except Error Value × Stage

/-- Asks the service, and shows the result as an answer. -/
def ask {α : Type} (g : Stage) (p : Serving α) (f : α → Stage → Answer) : Answer :=
  match g.world.perform p with
  | (some a, world) => f a { g with world }
  | (none, world) => (.error .stuck, { g with world })

/-- Asks for something that may fail. -/
def attempt {α ε : Type} (g : Stage) (error : ε → Error) (p : Serving (Except ε α))
    (f : α → Stage → Answer) : Answer :=
  g.ask p fun r g =>
    match r with
    | .ok a => f a g
    | .error e => (.error (error e), g)

/-- Asks the repository and shows what it says. -/
def repository (g : Stage) (r : RepositoryRequest) (f : r.Result → Value) : Answer :=
  g.attempt .repository (Serving.repository r) fun a g => (.ok (f a), g)

def noteWorkflow (g : Stage) (id : Id) : Stage :=
  if g.workflows.contains id then g else { g with workflows := g.workflows ++ [id] }

def noteTrigger (g : Stage) (id : Id) : Stage :=
  if g.triggers.contains id then g else { g with triggers := g.triggers ++ [id] }

/-- Remembers the workflow and the trigger of a response. -/
def note (g : Stage) (r : Response) : Stage :=
  let g := match r.workflowId with
    | some id => g.noteWorkflow id
    | none => g
  match r.triggerId with
  | some id => g.noteTrigger id
  | none => g

def idOf (known : List Id) : Value → Id
  | .number (.int i) => (known[i.toNat]?).getD .zero
  | v => (v.asString?.bind Id.ofText?).getD .zero

def workflowIn (g : Stage) (step : Value) : Id := idOf g.workflows (step.valueAt "workflow")

def triggerIn (g : Stage) (step : Value) : Id := idOf g.triggers (step.valueAt "trigger")

/-- The number as a text with nine decimals. -/
def fixed (x : Float) : Value := .string (Decimal.renderFixed 9 x.toBits)

def runJson (r : RunResult) : Value :=
  let step (s : StepRecord) : Value := s.toJson.without ["started_at", "finished_at", "duration_ms"]
  (r.toJson.without ["started_at", "finished_at"]).put "steps" (.array (r.steps.map step))

def summarized (r : RunResult) : Value := (runJson r).put "summary" (.string r.summary)

/-- A trigger without the time of its creation. -/
def triggerJson (t : Trigger) : Value := t.toJson.without ["created_at"]

/-- An item of listed data without its times. -/
def untimed (v : Value) : Value :=
  let v := v.without ["created_at", "last_accessed", "idle_secs"]
  if (v.valueAt "last_triggered").isNull then v else v.put "last_triggered" (.string "set")

/-- A response without its times. -/
def responseJson (r : Response) : Value :=
  let v := r.toJsonWith fun o => o.toJson.put "score" (fixed o.score)
  let v := match r.result with
    | some run => v.put "execution_result" (runJson run)
    | none => v
  match r.data with
  | some (.array items) => v.put "data" (.array (items.map untimed))
  | some data => v.put "data" (untimed data)
  | none => v

/-- A response without its times, and whether it is a success. -/
def judged (r : Response) : Value := (responseJson r).put "is_success" (.bool r.status.isSuccess)

end Stage

end Automation.Simulation
