import Automation.Conversation.Instances
import Automation.Conversation.Response
import Automation.Intent.Classifier
import Automation.Model.Planner
import Automation.Repository.Basic
import Automation.Run.Engine
import Automation.Settings.Basic

/-!
# The service

The service is given as processes that ask their surroundings one thing at a time: the time and
fresh ids, the model, the drivers and the repository, the table of instances, the set of triggers
with a run that has not ended, and runs in the background.
-/

namespace Automation

structure TriggeredRun where
  triggerId : Id
  executionId : Id
  workflow : Workflow

/-- What the service asks of its surroundings. -/
inductive ServiceRequest where
  /-- The time. -/
  | now
  /-- An id that was not given before and is greater than all those. -/
  | freshId
  | complete (p : Model.Prompt)
  /-- Attempt these calls, all at once. -/
  | dispatch (engine : Engine) (calls : List StepCall)
  | repository (r : RepositoryRequest)
  /-- Record a turn of a conversation for good. -/
  | logTurn (key : InstanceKey) (turn : Model.Message)
  /-- Take a trigger for a run; the answer tells whether it was free. -/
  | claim (triggerId : Id)
  | release (triggerId : Id)
  /-- The triggers that are taken. -/
  | claimed
  /-- Start a run in the background. -/
  | launch (engine : Engine) (run : TriggeredRun)
  /-- Wait for the end of a run in the background. -/
  | awaitRun (executionId : Id)
  /-- The status of the instance of a key, which is created if need be. -/
  | openInstance (key : InstanceKey) (initData : Json.Value)
  /-- Lock the instance of a key for a message; the answer is its number and conversation, or
  nothing if it is locked. -/
  | beginTurn (key : InstanceKey)
  /-- Keep the conversation of a locked instance. -/
  | keepTurn (serial : Nat) (c : Conversation)
  /-- Keep the conversation of a locked instance and unlock it. -/
  | endTurn (serial : Nat) (c : Conversation)
  /-- Forget the instance of a key; the answer tells whether there was one. -/
  | removeInstance (key : InstanceKey)
  /-- The statuses of all instances. -/
  | listInstances
  | clearInstances
  /-- Whether the search for due triggers should go on. -/
  | isPolling
  /-- Start to look for due triggers; the answer tells whether that was not already going on. -/
  | startPolling
  /-- Stop to look for due triggers and wait until the search has ended. -/
  | stopPolling
  /-- Whether the search that asks should go on. -/
  | keepsPolling
  /-- Let the search that asks wait so many milliseconds; the answer tells whether it was called. -/
  | restPolling (ms : Nat)

abbrev ServiceRequest.Answer : ServiceRequest → Type
  | now => Time.Instant
  | freshId => Id
  | complete _ => Model.Answer
  | dispatch _ _ => List Verdict
  | repository r => r.Answer
  | claim _ | removeInstance _ | isPolling | startPolling | keepsPolling | restPolling _ => Bool
  | claimed => List Id
  | awaitRun _ => Except Workflow.Invalid RunResult
  | openInstance _ _ => Json.Value
  | beginTurn _ => Option (Nat × Conversation)
  | listInstances => List Json.Value
  | logTurn _ _ | release _ | launch _ _ | keepTurn _ _ | endTurn _ _ | clearInstances
  | stopPolling => Unit

abbrev Serving := Process ServiceRequest ServiceRequest.Answer

namespace Serving

variable {α : Type}

def now : Serving Time.Instant := .ask .now .done

def freshId : Serving Id := .ask .freshId .done

def repository (r : RepositoryRequest) : Serving r.Answer := .ask (.repository r) .done

def logTurn (key : InstanceKey) (turn : Model.Message) : Serving Unit :=
  .ask (.logTurn key turn) .done

def claim (triggerId : Id) : Serving Bool := .ask (.claim triggerId) .done

def release (triggerId : Id) : Serving Unit := .ask (.release triggerId) .done

def claimed : Serving (List Id) := .ask .claimed .done

def launch (engine : Engine) (run : TriggeredRun) : Serving Unit := .ask (.launch engine run) .done

def awaitRun (executionId : Id) : Serving (Except Workflow.Invalid RunResult) :=
  .ask (.awaitRun executionId) .done

def openInstance (key : InstanceKey) (initData : Json.Value) : Serving Json.Value :=
  .ask (.openInstance key initData) .done

def beginTurn (key : InstanceKey) : Serving (Option (Nat × Conversation)) :=
  .ask (.beginTurn key) .done

def keepTurn (serial : Nat) (c : Conversation) : Serving Unit := .ask (.keepTurn serial c) .done

def endTurn (serial : Nat) (c : Conversation) : Serving Unit := .ask (.endTurn serial c) .done

def removeInstance (key : InstanceKey) : Serving Bool := .ask (.removeInstance key) .done

def listInstances : Serving (List Json.Value) := .ask .listInstances .done

def clearInstances : Serving Unit := .ask .clearInstances .done

def isPolling : Serving Bool := .ask .isPolling .done

def startPolling : Serving Bool := .ask .startPolling .done

def stopPolling : Serving Unit := .ask .stopPolling .done

def keepsPolling : Serving Bool := .ask .keepsPolling .done

def restPolling (ms : Nat) : Serving Bool := .ask (.restPolling ms) .done

def ofRunRequest (engine : Engine) : (r : RunRequest) → Serving r.Answer
  | .now => now
  | .dispatch calls => .ask (.dispatch engine calls) .done

def ofRunning (engine : Engine) : Running α → Serving α := Process.translate (ofRunRequest engine)

/-- A computation that may ask a model as one of the service. -/
def ofAsking : Model.Asking α → Serving α := Process.translate fun p => .ask (.complete p) .done

end Serving

structure Service where
  settings : Settings := {}
  registry : Registry
  catalog : Catalog
  /-- Whether there is a model to ask. -/
  hasModel : Bool := false

namespace Service

def version : String := "0.1.0"

def engine (s : Service) : Engine := ⟨s.registry, s.settings.execution⟩

def compiler (s : Service) : Compiler :=
  { registry := s.registry
    errorPolicy := ErrorPolicy.ofContinueFlag s.settings.execution.continueOnFailure }

end Service

end Automation
