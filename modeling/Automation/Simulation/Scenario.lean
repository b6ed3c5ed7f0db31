import Automation.Driver.Reader
import Automation.Simulation.Stage

/-!
# Scenarios

A scenario is a list of steps described in JSON. Each is performed on a stage and answered in JSON;
a step that fails does not keep the others from being performed. There are steps on triggers, and
steps that send messages and other requests to the service.
-/

namespace Automation.Simulation.Stage

open Json

private def list {α : Type} (f : α → Value) (xs : List α) : Value := .array (xs.map f)

/-- The answer of a step that has nothing to say. -/
def done : Value := .string "ok"

/-! ## Steps of every kind -/

/-- Waits for the end of runs and shows how they ended; `failed` shows an error. -/
def results (failed : Error → Value) (g : Stage) : List Id → List Value × Stage
  | [] => ([], g)
  | id :: rest =>
    let (a, g) := g.attempt .run (Serving.awaitRun id) fun r g => (.ok (summarized r), g)
    let (vs, g) := g.results failed rest
    let v := match a with
      | .ok v => v
      | .error e => failed e
    (v :: vs, g)

def logJson (r : RunResult) : Value :=
  .record [("status", .string r.status.text), ("summary", .string r.summary),
    ("workflow_id", .string r.workflowId.text)]

/-- The recorded runs: in the order of recording, or by workflow. -/
def logs (g : Stage) : Value :=
  match g.world.holdings with
  | .memory m => list logJson m.runs
  | .tables db =>
    let rows (id : Id) : List RunResult := match Store.Database.runsOf id.text (-1) db with
      | .ok rows => rows.filterMap fun (_, v) => RunResult.decode.ofValue? v
      | .error _ => []
    let numbered := (List.range g.workflows.length).zip g.workflows
    .record [("count", .nat db.logs.length),
      ("by_workflow", .record (numbered.map fun (i, id) => (toString i, list logJson (rows id))))]

def owned (g : Stage) (agentId : String) : Value :=
  match g.world.holdings with
  | .memory m => .strings ((m.owned agentId).map (·.text)).mergeSort
  | .tables _ => .null

/-- Steps that look behind the service; a closed stage shows nothing. -/
def inspect (g : Stage) (step : Value) : Answer :=
  let shown (v : Value) : Answer := (.ok (if g.closed then .null else v), g)
  match step.textAt "do" with
  | "calls" => shown (g.world.bench.callsJson g.shown)
  | "logs" => shown g.logs
  | "owned" => shown (g.owned (step.textAt "agent"))
  | "fail" =>
    if g.closed then (.ok .null, g)
    else (.ok done, { g with world := { g.world with failing := step.textsAt "names" } })
  | _ => (.error .unknown, g)

/-- Steps that start and stop the search for due triggers and let time pass. -/
def timing (g : Stage) (step : Value) : Answer :=
  match step.textAt "do" with
  | "sleep" => (.ok done, { g with world := g.world.sleep ((step.natAt? "ms").getD 0) })
  | "start" | "start_scheduler" => g.ask Serving.startPolling fun started g =>
      (if started then .ok done else .error .alreadyRunning, g)
  | "stop" => g.ask Serving.stopPolling fun _ g => (.ok done, g)
  | "running" => (.ok (.bool g.world.polling.running), g)
  | _ => g.inspect step

/-! ## Steps on triggers -/

def firingJson (f : Firing) (result : Members) : Value :=
  .record ([("trigger_id", .string f.triggerId.text), ("workflow_id", .string f.workflowId.text),
    ("execution_id", .string f.executionId.text), ("fired_at", .string f.firedAt.render)] ++ result)

/-- Shows what was fired, with the runs unless they are to be kept. -/
def firings (failed : Error → Value) (g : Stage) (keep : Bool) (fs : List Firing) :
    List Value × Stage :=
  let ids := fs.map (·.executionId)
  if keep then (fs.map (firingJson · []), { g with kept := g.kept ++ ids })
  else
    let (rs, g) := g.results failed ids
    ((fs.zip rs).map fun (f, r) => firingJson f [("result", r)], g)

def save (g : Stage) (agentId : String) (w : Workflow) : Answer :=
  g.attempt .repository (Serving.repository (.saveWorkflow agentId w)) fun _ g =>
    (.ok (.record [("workflow_id", .string w.id.text), ("valid", .bool w.validation.isValid)]),
      g.noteWorkflow w.id)

/-- Compiles a described blueprint, against the drivers of the description if it has some. -/
def compiled (g : Stage) (step : Value) (id : Id) : Except Error Workflow := do
  let registry ← match step.member? "registry" with
    | none => pure g.service.registry
    | some v =>
      ((Bench.ofJson v (step.flagAt "with_standard")).map (·.1.registry)).mapError .registry
  let blueprint ← (Blueprint.ofJson step).mapError .blueprint
  let c : Compiler := { registry, errorPolicy := g.policy }
  return c.compile id g.world.wall blueprint (step.textMapAt "params")

/-- A document given as an object or as its text. -/
def documentOf (v : Value) : Except Workflow.DocumentError Workflow :=
  Workflow.read (v.asString?.getD v.render)

/-- A record of a trigger whose workflow may be given by its number. -/
def recordOf? (g : Stage) (v : Value) : Option Trigger :=
  let workflowId := idOf g.workflows (v.valueAt "workflow_id")
  Trigger.decode.ofValue? (v.put "workflow_id" (.string workflowId.text))

/-- A step on triggers; `failed` shows an error inside of an answer. -/
def triggerStep (failed : Error → Value) (g : Stage) (step : Value) : Answer :=
  let engine := g.service.engine
  let agentId := step.textAt "agent"
  let now := ((step.textAt? "now").bind Time.Instant.ofText?).getD g.world.wall
  let keep := step.flagAt "detach"
  match step.textAt "do" with
  | "save" =>
    let (id, world) := g.world.freshId
    match g.compiled step id with
    | .ok w => { g with world }.save agentId w
    | .error e => (.error e, g)
  | "save_json" =>
    match documentOf (step.valueAt "workflow") with
    | .ok w => g.save agentId w
    | .error e => (.error (.document e), g)
  | "create" =>
    match TriggerType.ofText? (step.textAt "type") with
    | none => (.error (.triggerType (step.textAt "type")), g)
    | some type =>
      g.attempt .firing (Trigger.register agentId (g.workflowIn step) type (step.valueAt "config"))
        fun t g => (.ok (triggerJson t), g.noteTrigger t.id)
  | "insert" =>
    match g.recordOf? (step.valueAt "trigger") with
    | none => (.error .unknown, g)
    | some t => g.attempt .repository (Serving.repository (.createTrigger t)) fun _ g =>
        (.ok done, g.noteTrigger t.id)
  | "get" => g.repository (.getTrigger (g.triggerIn step)) fun t => Value.orNull (t.map triggerJson)
  | "list" => g.repository (.triggersOf agentId) (list triggerJson)
  | "list_active" => g.repository .activeTriggers (list fun t => .string t.id.text)
  | "touch" => g.repository (.stampTrigger (g.triggerIn step) now) fun _ => done
  | "pause" => g.repository (.setStatus (g.triggerIn step) .paused) fun _ => done
  | "resume" => g.repository (.setStatus (g.triggerIn step) .active) fun _ => done
  | "tick" => g.attempt .repository (Trigger.due now) fun ts g =>
      (.ok (list (·.toJson.without ["created_at", "config", "status", "trigger_type"]) ts), g)
  | "fire" => g.attempt .firing (Trigger.fire engine (g.triggerIn step) now) fun f g =>
      let (vs, g) := g.firings failed keep [f]
      (.ok (vs.headD .null), g)
  | "run_once" => g.attempt .repository (Trigger.pass engine now) fun report g =>
      let (vs, g) := g.firings failed keep report.fired
      let failure := fun (id, e) => Value.record [("trigger_id", .string (Id.text id)),
        ("reason", .string (FiringError.message e))]
      (.ok (.record [("fired", .array vs), ("failures", list failure report.failures)]), g)
  | "join" =>
    let (vs, g) := { g with kept := [] }.results failed g.kept
    (.ok (.array vs), g)
  | _ => g.timing step

/-! ## Steps on the service -/

/-- Asks the service for a response and shows it. -/
def respond (g : Stage) (p : Serving Response) : Answer :=
  g.ask p fun r g => (.ok (judged r), g.note r)

def conversationJson (c : Conversation) : Value :=
  let pending := c.pending.map fun p =>
    let source := match p.blueprint with
      | .template _ => "template"
      | .plan _ => "plan"
    Value.record [("source", .string source), ("name", .string p.blueprint.name),
      ("parameters", .stringMap p.parameters), ("missing", .strings p.missing)]
  let selection := c.selection.map fun s =>
    Value.record [("options", .strings (s.options.map (·.id))),
      ("parameters", .stringMap s.parameters)]
  .record [("history", list (fun m => .strings [m.role.text, m.content]) c.history.turns),
    ("pending", Value.orNull pending), ("selection", Value.orNull selection),
    ("init_data", c.initData)]

private def keyOf (step : Value) : InstanceKey := ⟨step.textAt "agent", step.textAt "session"⟩

/-- Sends messages at the same time, each after a while of its own, and shows the responses in the
order of the messages. -/
def concurrent (g : Stage) (messages : List Value) : Answer :=
  let start := fun (numbers, w) (m : Value) =>
    let p := (g.service.send (keyOf m) (m.textAt "text")).andThen fun r => .done (Deed.reply r)
    let (n, w) := World.spawn w ((m.natAt? "after_ms").getD 0) p
    (numbers ++ [n], w)
  let (numbers, world) := messages.foldl start ([], g.world)
  let finish := fun (answers, g) n =>
    match World.await (Stage.world g) n with
    | (some (.reply r), world) => (answers ++ [judged r], { g with world }.note r)
    | (_, world) => (answers, { g with world })
  let (answers, g) := numbers.foldl finish ([], { g with world })
  (.ok (.array answers), g)

def recorded (g : Stage) (key : InstanceKey) (limit : Int) : Answer :=
  match g.closed, g.world.holdings with
  | false, .tables db =>
    let row (m : Store.MessageRow) : Value := .array [.nat m.id, .string m.role, .string m.content]
    let rows := Store.Database.recentMessages key.agentId key.sessionId limit db
    ((rows.map (list row)).mapError .store, g)
  | _, _ => (.ok .null, g)

def info (g : Stage) : Value :=
  .record [("context_window", .nat g.service.settings.instances.contextWindow),
    ("drivers", .nat g.service.registry.size), ("instances", .nat g.world.instances.live.length),
    ("running", .bool g.world.polling.running), ("templates", .nat g.service.catalog.size)]

/-- One pass of the search for due triggers, with the runs waited for. -/
def passNow (failed : Error → Value) (g : Stage) : Answer :=
  g.attempt .repository (Trigger.pass g.service.engine g.world.wall) fun report g =>
    let (rs, g) := g.results failed (report.fired.map (·.executionId))
    let fired := (report.fired.zip rs).map fun (f, r) =>
      Value.record [("trigger_id", .string f.triggerId.text), ("result", r)]
    let failure := fun (id, e) => Value.strings [Id.text id, FiringError.message e]
    (.ok (.record [("fired", .array fired), ("failures", list failure report.failures)]), g)

/-- A step on the service; `failed` shows an error inside of an answer. -/
def serviceStep (failed : Error → Value) (g : Stage) (step : Value) : Answer :=
  let key := keyOf step
  match step.textAt "do" with
  | "send" => g.respond (g.service.send key (step.textAt "text"))
  | "create_instance" => g.respond (Service.createInstance key (step.valueAt "init"))
  | "remove_instance" => g.respond (Service.removeInstance key)
  | "instances" => g.respond Service.listInstances
  | "create_trigger" => g.respond (Service.createTrigger key.agentId (g.workflowIn step)
      (step.textAt "type") (step.valueAt "config"))
  | "fire" => g.respond (g.service.fireTrigger (g.triggerIn step))
  | "pause" => g.respond (Service.pauseTrigger (g.triggerIn step))
  | "resume" => g.respond (Service.resumeTrigger (g.triggerIn step))
  | "triggers" => g.respond (Service.listTriggers key.agentId)
  | "templates" => g.respond (.done g.service.listTemplates)
  | "concurrent" => g.concurrent (step.itemsAt "messages")
  | "state" =>
    match g.world.instances.get? key with
    | some i => (.ok (conversationJson i.conversation), g)
    | none => (.error .noInstance, g)
  | "pass" => g.passNow failed
  | "shutdown" => g.ask Service.shutdown fun _ g =>
      (.ok (.record [("instances", .nat g.world.instances.live.length),
        ("running", .bool g.world.polling.running)]), g)
  | "conversation" => g.recorded key ((step.intAt? "limit").getD 100)
  | "seen" => (.ok (g.world.model.seenJson (step.flagAt "show_system")), g)
  | "info" => (.ok g.info, g)
  | _ => g.timing step

end Automation.Simulation.Stage
