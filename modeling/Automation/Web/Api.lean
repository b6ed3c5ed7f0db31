import Automation.Http.Address
import Automation.Json.Fault
import Automation.Service.Requests

/-!
# The web interface

A request names a resource by its path and is answered with a status and, if it was understood, with
what the service says. A path that names nothing, a method that the resource does not know and a
body of the wrong form are refused without asking the service.
-/

namespace Automation.Web

open Json

structure Request where
  method : String
  path : String
  /-- The body, if it is declared to be JSON. -/
  body : Option String := none

inductive Body where
  | empty
  | json (v : Value)
  | response (r : Response)

structure Reply where
  status : Nat
  body : Body := .empty

inductive Resource where
  | health
  | templates
  | instances
  | oneInstance (agentId sessionId : String)
  | messages (agentId sessionId : String)
  | triggers
  | triggersOf (agentId : String)
  | fire (triggerId : String)
  | pause (triggerId : String)
  | resume (triggerId : String)

namespace Resource

/-- The resource at a path, its parts still percent-encoded. -/
def ofParts? : List String → Option Resource
  | ["health"] => some .health
  | ["templates"] => some .templates
  | ["instances"] => some .instances
  | ["instances", agent, session] => some (.oneInstance agent session)
  | ["instances", agent, session, "messages"] => some (.messages agent session)
  | ["triggers"] => some .triggers
  | ["triggers", id, "fire"] => some (.fire id)
  | ["triggers", id, "pause"] => some (.pause id)
  | ["triggers", id, "resume"] => some (.resume id)
  | ["agents", agent, "triggers"] => some (.triggersOf agent)
  | _ => none

/-- The resource at a path; no part of it may be empty. -/
def ofPath? (path : String) : Option Resource :=
  let path := path.toList.takeWhile fun c => c != '?' && c != '#'
  match (Text.splitWhere (· == '/') path).map String.ofList with
  | "" :: "api" :: parts => if parts.contains "" then none else ofParts? parts
  | _ => none

def methods : Resource → List String
  | health | templates | triggersOf _ => ["GET", "HEAD"]
  | instances => ["GET", "HEAD", "POST"]
  | oneInstance _ _ => ["DELETE"]
  | messages _ _ | triggers | fire _ | pause _ | resume _ => ["POST"]

end Resource

/-- A computation of the service that ends early with a status. -/
abbrev Handler := ExceptT Nat Serving

namespace Handler

variable {α : Type}

def refuse (status : Nat) : Handler α := Process.done (.error status)

def ofServing (p : Serving α) : Handler α := p.andThen fun a => .done (.ok a)

/-- The text of a part of a path; it must be well formed. -/
def part (s : String) : Handler String :=
  match String.fromUTF8? (ByteArray.mk (Http.Host.percentDecode s.toList).toArray) with
  | some text => pure text
  | none => refuse 400

/-- The id in a part of a path. -/
def idPart (s : String) : Handler Id := do
  let text ← part s
  match Id.ofText? text with
  | some id => pure id
  | none => refuse 400

/-- The body of a request. It must be declared as JSON (or 415 refuses it), be JSON (or 400) and
have the form expected (or 422); the form is looked at before what follows the value. A body nested
too deep, with a number out of range or with half a surrogate pair is no JSON. -/
def body (r : Request) (d : Decoder α) : Handler α := do
  let some text := r.body | refuse 415
  let front := Fault.beforeTrailing? text
  match Source.read? (front.getD text) with
  | none => refuse 400
  | some source =>
    match d maxDepth source with
    | none => refuse (if (source.value? maxDepth).isSome then 422 else 400)
    | some a => if front.isSome then refuse 400 else pure a

end Handler

def Reply.ofResponse (r : Response) : Reply :=
  let status := match r.status with
    | .busy => 409
    | .error => 400
    | _ => 200
  ⟨status, .response r⟩

def health (s : Service) : Serving Reply := do
  let statuses ← Serving.listInstances
  let polling ← Serving.isPolling
  return ⟨200, .json (.record [("status", .string "ok"), ("version", .string Service.version),
    ("instances", .nat statuses.length), ("templates", .nat s.catalog.size),
    ("drivers", .nat s.registry.size), ("scheduler_running", .bool polling)])⟩

def instanceForm : Decoder (InstanceKey × Value) :=
  Decoder.record ["agent_id", "session_id", "init_data"] fun r => do
    return (⟨← r.required "agent_id" Decoder.string, ← r.required "session_id" Decoder.string⟩,
      ← r.orElse "init_data" Decoder.value .null)

def messageForm : Decoder String :=
  Decoder.record ["message"] fun r => r.required "message" Decoder.string

structure TriggerForm where
  agentId : String
  workflowId : Id
  type : String
  config : Value

def triggerForm : Decoder TriggerForm :=
  Decoder.record ["agent_id", "workflow_id", "trigger_type", "config"] fun r => do
    return {
      agentId := ← r.required "agent_id" Decoder.string
      workflowId := ← r.required "workflow_id" Id.decode
      type := ← r.required "trigger_type" Decoder.string
      config := ← r.orElse "config" Decoder.value .null }

/-- Handles a request for a resource under a method that it knows. -/
def Resource.handle (s : Service) (r : Request) : Resource → Handler Reply
  | .health => .ofServing (Web.health s)
  | .templates => return .ofResponse s.listTemplates
  | .instances =>
    if r.method == "POST" then do
      let (key, initData) ← Handler.body r instanceForm
      return .ofResponse (← Handler.ofServing (Service.createInstance key initData))
    else return .ofResponse (← Handler.ofServing Service.listInstances)
  | .oneInstance agent session => do
    let key := InstanceKey.mk (← Handler.part agent) (← Handler.part session)
    let response ← Handler.ofServing (Service.removeInstance key)
    if response.status = .error then return ⟨404, .response response⟩
    else return .ofResponse response
  | .messages agent session => do
    let key := InstanceKey.mk (← Handler.part agent) (← Handler.part session)
    let text ← Handler.body r messageForm
    return .ofResponse (← Handler.ofServing (s.send key text))
  | .triggers => do
    let f ← Handler.body r triggerForm
    return .ofResponse (← Handler.ofServing
      (Service.createTrigger f.agentId f.workflowId f.type f.config))
  | .triggersOf agent => do
    let agentId ← Handler.part agent
    return .ofResponse (← Handler.ofServing (Service.listTriggers agentId))
  | .fire id => do
    let id ← Handler.idPart id
    return .ofResponse (← Handler.ofServing (s.fireTrigger id))
  | .pause id => do
    let id ← Handler.idPart id
    return .ofResponse (← Handler.ofServing (Service.pauseTrigger id))
  | .resume id => do
    let id ← Handler.idPart id
    return .ofResponse (← Handler.ofServing (Service.resumeTrigger id))

/-- Handles a request. Questions about what is allowed are answered for every path. -/
def handle (s : Service) (r : Request) : Serving Reply :=
  if r.method == "OPTIONS" then .done ⟨200, .empty⟩
  else match Resource.ofPath? r.path with
    | none => .done ⟨404, .empty⟩
    | some resource =>
      if !resource.methods.contains r.method then .done ⟨405, .empty⟩
      else do
        match ← resource.handle s r with
        | .error status => return ⟨status, .empty⟩
        | .ok reply => return if r.method == "HEAD" then { reply with body := .empty } else reply

def address (s : WebSettings) : String := s.bind ++ ":" ++ toString s.port

end Automation.Web
