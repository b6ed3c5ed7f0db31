import Automation.Service.Turn

/-!
# Requests to the service

What users of the service can ask for. Every request is answered with a response.
-/

namespace Automation.Service

open Json

def checkKey (key : InstanceKey) : Option Response :=
  if Text.isBlankText key.agentId || Text.isBlankText key.sessionId then
    some (Response.error "agent_id and session_id are required.")
  else none

/-- Handles a message on a locked instance. -/
def handle (s : Service) (key : InstanceKey) (serial : Nat) (c : Conversation) (text : String) :
    Serving Response := do
  let recent := c.history.recent s.settings.instances.contextWindow
  let asked := { c with history := c.history.pushUser text }
  Serving.keepTurn serial asked
  let (response, answered) ← s.respond key asked (Text.trim text) recent
  Serving.endTurn serial
    { answered with history := answered.history.pushAssistant response.message }
  Serving.logTurn key { role := .user, content := text }
  Serving.logTurn key { role := .assistant, content := response.message }
  return response

/-- Sends a message to the instance of a key. While it handles another one it is busy. -/
def send (s : Service) (key : InstanceKey) (text : String) : Serving Response :=
  match checkKey key with
  | some bad => .done bad
  | none =>
    if Text.isBlankText text then .done (Response.error "Message is empty.")
    else do
      match ← Serving.beginTurn key with
      | some (serial, c) => s.handle key serial c text
      | none => return { status := .busy, message := key.busyMessage }

def createInstance (key : InstanceKey) (initData : Value) : Serving Response :=
  match checkKey key with
  | some bad => .done bad
  | none => do
    let status ← Serving.openInstance key initData
    return { Response.ok ("Instance " ++ key.text ++ " ready.") with data := some status }

def removeInstance (key : InstanceKey) : Serving Response := do
  if ← Serving.removeInstance key then return Response.ok ("Instance " ++ key.text ++ " removed.")
  else return Response.error key.absentMessage

def listInstances : Serving Response := do
  let statuses ← Serving.listInstances
  return { Response.ok (toString statuses.length ++ " live instance(s).") with
           data := some (.array statuses) }

def createTrigger (agentId : String) (workflowId : Id) (type : String) (config : Value) :
    Serving Response :=
  match TriggerType.ofText? type with
  | none => .done (Response.error (Trigger.Error.unknownType type).message)
  | some type => do
    match ← Trigger.register agentId workflowId type config with
    | .ok t =>
      return { Response.ok ("Created " ++ type.text ++ " trigger.") with
               workflowId := some workflowId, triggerId := some t.id }
    | .error e => return { Response.error e.message with workflowId := some workflowId }

def fireTrigger (s : Service) (id : Id) : Serving Response := do
  let now ← Serving.now
  match ← Trigger.fire s.engine id now with
  | .error e => return { Response.error e.message with triggerId := some id }
  | .ok firing =>
    match ← Serving.awaitRun firing.executionId with
    | .ok result =>
      return { status := .executed
               message := "Trigger fired: " ++ result.summary ++ "."
               workflowId := some result.workflowId
               result := some result
               triggerId := some id }
    | .error e =>
      return { Response.error e.message with
               workflowId := some firing.workflowId, triggerId := some id }

def setStatus (id : Id) (status : TriggerStatus) (done : String) : Serving Response := do
  match ← Serving.repository (.setStatus id status) with
  | .ok () => return { Response.ok done with triggerId := some id }
  | .error e => return { Response.error e.message with triggerId := some id }

def pauseTrigger (id : Id) : Serving Response := setStatus id .paused "Trigger paused."

def resumeTrigger (id : Id) : Serving Response := setStatus id .active "Trigger resumed."

def listTriggers (agentId : String) : Serving Response := do
  match ← Serving.repository (.triggersOf agentId) with
  | .ok ts =>
    return { Response.ok (toString ts.length ++ " trigger(s).") with
             data := some (.array (ts.map Trigger.toJson)) }
  | .error e => return Response.error e.message

def listTemplates (s : Service) : Response :=
  let row (t : Template) : Value :=
    .record [("id", .string t.id), ("name", .string t.name), ("category", .string t.category.text),
      ("description", .string t.description), ("steps", .nat t.steps.length)]
  { Response.ok (toString s.catalog.size ++ " template(s).") with
    data := some (.array (s.catalog.templates.map row)) }

/-- Ends the search for due triggers and forgets all instances. -/
def shutdown : Serving Unit := do
  Serving.stopPolling
  Serving.clearInstances

end Automation.Service
