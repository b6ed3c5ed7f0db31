import Automation.Conversation.Reply
import Automation.Service.Firing

/-!
# Turns of a conversation

A message is a cancellation, an answer to an open question, or a request. A request is matched with
the templates, or planned by the model if no template fits; the workflow is compiled and then waits
for what is missing, is scheduled, or is run.
-/

namespace Automation.Service

open Json

/-- The reply to a message and the conversation after it. -/
abbrev Turn := Response × Conversation

def introduction : String :=
  "I can automate things like sending emails, creating tasks, drafting content, " ++
  "exporting reports, " ++
    "and scheduled reminders. Tell me what you'd like done."

def noMatch : Response :=
  { status := .noMatch
    message := "I couldn't find a workflow for that request. Could you describe it differently?" }

def cancel (c : Conversation) : Turn :=
  if c.pending.isSome || c.selection.isSome then
    ({ status := .cancelled, message := "Okay, I've dropped that." }, c.reset)
  else ({ status := .conversation, message := "There's nothing to cancel." }, c)

/-- Registers a trigger that runs a stored workflow again and again. -/
def schedule (key : InstanceKey) (w : Workflow) (config : Value) : Serving Response := do
  let every := match config.member? "interval", config.member? "unit" with
    | some n, some (.string unit) => n.render ++ " " ++ unit
    | some n, _ => n.render ++ " minutes"
    | none, _ => "null minutes"
  match ← Trigger.register key.agentId w.id .timeBased config with
  | .ok t =>
    return { status := .scheduled
             message := "Scheduled \"" ++ w.name ++ "\" to run every " ++ every ++ "."
             workflowId := some w.id
             triggerId := some t.id }
  | .error e =>
    let refusal := Response.error ("I couldn't schedule that: " ++ e.message)
    return { refusal with workflowId := some w.id }

def runNow (s : Service) (w : Workflow) : Serving Response := do
  let executionId ← Serving.freshId
  match ← Serving.ofRunning s.engine (s.engine.execute w executionId) with
  | .error e =>
    return { Response.error ("I couldn't run that workflow: " ++ e.message) with
             workflowId := some w.id }
  | .ok result =>
    let _ ← Serving.repository (.saveRun result)
    return { status := .executed
             message := "Ran \"" ++ w.name ++ "\": " ++ result.summary ++ "."
             workflowId := some result.workflowId
             result := some result }

/-- Stores a valid workflow, then schedules it if the parameters hold a cadence, or runs it. -/
def saveAndRun (s : Service) (key : InstanceKey) (w : Workflow) (params : Entries String) :
    Serving Response := do
  match ← Serving.repository (.saveWorkflow key.agentId w) with
  | .error e =>
    return { Response.error ("I couldn't save the workflow: " ++ e.message) with
             workflowId := some w.id }
  | .ok () =>
    match Reply.scheduleConfig? params with
    | some config => schedule key w config
    | none => s.runNow w

/-- The reply to a request whose workflow is not valid, and the conversation after it: if nothing
but parameters is missing the workflow waits for them. -/
def hold (c : Conversation) (blueprint : Blueprint) (params : Entries String) (w : Workflow) :
    Turn :=
  let report := w.validation
  let question := report.question.getD ""
  let status := if report.errors.isEmpty then ResponseStatus.needsInput else .error
  let response : Response := {
    status, message := question, workflowId := some w.id, missing := report.missing }
  if report.errors.isEmpty then
    (response, { c with pending := some ⟨blueprint, params, report.missing⟩ })
  else (response, c)

/-- Compiles a blueprint and acts on the workflow. -/
def compileAndRun (s : Service) (key : InstanceKey) (c : Conversation) (blueprint : Blueprint)
    (params : Entries String) : Serving Turn := do
  let id ← Serving.freshId
  let now ← Serving.now
  let w := s.compiler.compile id now blueprint params
  if w.validation.isValid then
    let response ← s.saveAndRun key w params
    return (response, c.reset)
  else return hold c blueprint params w

def offer (index : Nat) (candidate : Candidate) : Offer :=
  let t := candidate.template
  { index, templateId := t.id, name := t.name, description := t.description,
    score := candidate.score }

def offerChoice (c : Conversation) (candidates : List Candidate) (params : Entries String) : Turn :=
  let offers := (candidates.zip (List.range' 1 candidates.length)).map fun (x, i) => offer i x
  let lines := offers.map fun o =>
    "\n" ++ toString o.index ++ ". " ++ o.name ++ ": " ++ o.description
  let message := "I found a few workflows that could fit:" ++ String.join lines ++
    "\nReply with a number or a name."
  ({ status := .awaitingSelection, message, offers },
    { c with selection := some ⟨candidates.map (·.template), params⟩ })

/-- The candidate that is taken without a question: the only one, or the first if it is good
enough. -/
def chosen? (s : Service) (intent : Intent) (candidates : List Candidate) : Option Candidate :=
  if s.settings.matching.takesFirst intent candidates || candidates.length = 1 then candidates.head?
  else none

/-- Asks the model for a plan and acts on it. -/
def planAndRun (s : Service) (key : InstanceKey) (c : Conversation) (text : String)
    (params : Entries String) : Serving Turn := do
  match ← Serving.ofAsking (Plan.request s.registry text params) with
  | .ok plan => s.compileAndRun key c (.plan plan) params
  | .error _ => return (noMatch, c)

/-- Acts on what a message asks for. -/
def act (s : Service) (key : InstanceKey) (c : Conversation) (text : String) (intent : Intent) :
    Serving Turn :=
  if !intent.isAutomation then .done ({ status := .conversation, message := introduction }, c)
  else
    let candidates := s.catalog.candidates s.settings.matching intent s.settings.matching.limit
    let params := intent.extracted
    match s.chosen? intent candidates with
    | some chosen => s.compileAndRun key c (.template chosen.template) params
    | none =>
      if !candidates.isEmpty then .done (offerChoice c candidates params)
      else if s.hasModel then s.planAndRun key c text params
      else .done (noMatch, c)

/-- What a message asks for, given the recent turns. -/
def understand (s : Service) (text : String) (recent : List Model.Message) : Serving Intent :=
  Serving.ofAsking (Intent.classify s.hasModel text recent)

/-- The values that a message gives to the missing parameters of a waiting workflow: those it
assigns, and those found in it. -/
def filled (text : String) (missing : List String) : Entries String :=
  let found := (Intent.extract text).filter fun (k, _) => missing.contains k
  found.foldl (fun values (k, v) =>
    if Entries.has values k then values else Entries.insert values k v)
      (Reply.followUp text missing)

/-- The parameters with further values, which replace earlier ones. -/
def extend (params more : Entries String) : Entries String :=
  more.foldl (fun params (k, v) => Entries.insert params k v) params

def remind (p : Pending) : Response :=
  let names := (String.intercalate ", " p.missing).toList.map fun ch =>
    if ch == '_' then ' ' else ch
  { status := .needsInput
    message := "I still need the " ++ String.ofList names ++ " to run \"" ++ p.blueprint.name ++
      "\". Reply with `name: value`, or say cancel."
    missing := p.missing }

/-- The template that a message picks from an open choice, with the parameters of the choice. -/
def picked? (text : String) (selection : Option Selection) :
    Option (Template × Entries String) := do
  let sel ← selection
  let i ← Reply.pick? text sel.options
  let t ← sel.options[i]?
  return (t, sel.parameters)

/-- The reply to a message, given the recent turns. -/
def respond (s : Service) (key : InstanceKey) (c : Conversation) (text : String)
    (recent : List Model.Message) : Serving Turn :=
  if Reply.isCancel text then .done (cancel c)
  else
    let free := { c with selection := none }
    match picked? text c.selection with
    | some (t, params) => s.compileAndRun key free (.template t) params
    | none =>
      match c.pending with
      | none => do
        let intent ← s.understand text recent
        s.act key free text intent
      | some pending =>
        let values := filled text pending.missing
        let bare := { free with pending := none }
        if !values.isEmpty then
          s.compileAndRun key bare pending.blueprint (extend pending.parameters values)
        else do
          let intent ← s.understand text recent
          if intent.isAutomation then s.act key bare text intent
          else return (remind pending, free)

end Automation.Service
