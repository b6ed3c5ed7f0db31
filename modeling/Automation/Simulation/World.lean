import Automation.Driver.Bench
import Automation.Model.Script
import Automation.Repository.Memory
import Automation.Repository.Tables
import Automation.Service.Requests
import Automation.Trigger.Claims
import Automation.Trigger.Polling

/-!
# A world for the service

A world holds everything that the service asks for, with a clock of its own that moves only when
everybody waits. Background processes are tasks; each is suspended with what it waits for.
-/

namespace Automation.Simulation

open Json

/-- Where workflows, triggers and runs are kept. -/
inductive Holdings where
  | memory (m : Memory)
  | tables (db : Store.Database)

inductive Owner where
  /-- The process in the foreground. -/
  | foreground
  | task (n : Nat)
deriving DecidableEq, Repr

/-- The attempts at one step, as far as they have come. -/
inductive Job where
  | finished (v : Verdict)
  | pausing (wake : Nat) (next : Attempting Verdict)
  /-- Waits for an answer or for the end of the time allowed, whichever is first. -/
  | calling (wake : Nat) (c : StepCall) (inTime : Bool) (next : Option Outcome → Attempting Verdict)

/-- What a task has come to. -/
inductive Deed where
  | run (executionId : Id) (r : Except Workflow.Invalid RunResult)
  | reply (r : Response)
  /-- Whether another round of a search follows. -/
  | round (more : Bool)

/-- A process and what it waits for. -/
inductive Suspended (α : Type) where
  | ready (p : Serving α)
  | sleeping (wake : Nat) (p : Serving α)
  | attempting (jobs : List Job) (next : List Verdict → Serving α)
  /-- For an operation of the store. -/
  | storing (p : Serving α)
  | awaitingRun (executionId : Id) (next : Except Workflow.Invalid RunResult → Serving α)
  | awaitingTask (n : Nat) (next : Deed → Serving α)
  | awaitingSearch (n : Nat) (p : Serving α)
  /-- Between two passes of a search. -/
  | resting (wake search : Nat) (next : Bool → Serving α)
  | ended (a : α)

structure Task where
  number : Nat
  /-- The number of the search that it is, if it is one. -/
  search : Option Nat := none
  state : Suspended Deed

structure World where
  /-- Milliseconds since the beginning. -/
  clock : Nat := 0
  /-- The time that the service is told. -/
  wall : Time.Instant
  /-- How many ids were given. -/
  ids : Nat := 0
  bench : Bench := []
  holdings : Holdings := .memory {}
  /-- The names of the requests to the repository that fail. -/
  failing : List String := []
  model : Model.Script := {}
  taken : List Id := []
  instances : Instances
  /-- What runs the workflows of due triggers. -/
  engine : Engine
  pollSettings : PollSettings := {}
  polling : Polling := {}
  tasks : List Task := []
  /-- The tasks that can go on, in order. -/
  ready : List Nat := []
  /-- Times to wake somebody at, in the order in which they were asked for. -/
  timers : List (Nat × Owner) := []
  /-- Those that wait for an operation of the store, in order. -/
  storing : List Owner := []
  deeds : List (Nat × Deed) := []

namespace World

/-- The world around a service at a time, with the drivers behind its registry. There is none if the
settings for instances cannot be kept. -/
def ofService? (s : Service) (bench : Bench) (holdings : Holdings) (wall : Time.Instant) :
    Option World := do
  let instances ← Instances.ofSettings? s.settings.instances wall
  return { wall, bench, holdings, instances, engine := s.engine,
           pollSettings := s.settings.scheduler }

def freshId (w : World) : Id × World := (Id.generated (w.ids + 1), { w with ids := w.ids + 1 })

def addTimer (w : World) (wake : Nat) (owner : Owner) : World :=
  { w with timers := w.timers ++ [(wake, owner)] }

def awaken (w : World) (n : Nat) : World :=
  if w.ready.contains n then w else { w with ready := w.ready ++ [n] }

/-- Starts a task that waits so many milliseconds first. -/
def spawn (w : World) (after : Nat) (p : Serving Deed) (search : Option Nat := none) :
    Nat × World :=
  let n := w.tasks.length
  let add (state : Suspended Deed) : World := { w with tasks := w.tasks ++ [⟨n, search, state⟩] }
  if after = 0 then (n, (add (.ready p)).awaken n)
  else (n, (add (.sleeping (w.clock + after) p)).addTimer (w.clock + after) (.task n))

def runOutcome? (w : World) (executionId : Id) : Option (Except Workflow.Invalid RunResult) :=
  w.deeds.findSome? fun
    | (_, .run id r) => if id = executionId then some r else none
    | _ => none

/-! ## Drivers -/

/-- A driver receives a call: how many milliseconds the answer takes. -/
def receive (w : World) (c : StepCall) : Nat × World :=
  match Entries.get? w.bench c.driver with
  | none => (0, w)
  | some d =>
    let (delay, d) := d.receive c.operation c.parameters c.context
    (delay, { w with bench := Entries.insert w.bench c.driver d })

def answer (w : World) (c : StepCall) : Outcome × World :=
  match Entries.get? w.bench c.driver with
  | none => (.failed "", w)
  | some d =>
    let (id, w) := w.freshId
    let (o, d) := d.answer id c.operation c.parameters
    (o, { w with bench := Entries.insert w.bench c.driver d })

/-- Goes on with the attempts at a step until they wait. -/
def attempt (owner : Owner) : Attempting Verdict → World → Job × World
  | .done v, w => (.finished v, w)
  | .ask (.pause ms) next, w =>
    if ms = 0 then attempt owner (next ()) w
    else (.pausing (w.clock + ms) (next ()), w.addTimer (w.clock + ms) owner)
  | .ask (.call c timeoutSecs) next, w =>
    let (delay, w) := w.receive c
    if delay = 0 then
      let (o, w) := w.answer c
      attempt owner (next (some o)) w
    else if timeoutSecs = 0 then attempt owner (next none) w
    else
      let wake := w.clock + min delay (timeoutSecs * 1000)
      (.calling wake c (delay ≤ timeoutSecs * 1000) next, w.addTimer wake owner)

/-- Goes on with a job whose time has come. -/
def resumeJob (owner : Owner) : Job → World → Job × World
  | .finished v, w => (.finished v, w)
  | .pausing wake next, w =>
    if wake ≤ w.clock then w.attempt owner next else (.pausing wake next, w)
  | .calling wake c inTime next, w =>
    if wake ≤ w.clock then
      if inTime then
        let (o, w) := w.answer c
        w.attempt owner (next (some o))
      else w.attempt owner (next none)
    else (.calling wake c inTime next, w)

/-- Does something to each of some things in order. -/
def inOrder {α β : Type} (f : α → World → β × World) : List α → World → List β × World
  | [], w => ([], w)
  | a :: rest, w =>
    let (b, w) := f a w
    let (bs, w) := inOrder f rest w
    (b :: bs, w)

/-- The verdicts of jobs that are all finished. -/
def verdicts? : List Job → Option (List Verdict)
  | [] => some []
  | .finished v :: rest => (verdicts? rest).map (v :: ·)
  | _ :: _ => none

/-! ## Repository -/

/-- Answers a request to the repository; the answer of a store takes a while. -/
def ask (w : World) (r : RepositoryRequest) : r.Answer × Bool × World :=
  if w.failing.contains r.name then (.error (.failed ("injected " ++ r.name)), false, w)
  else match w.holdings with
    | .memory m =>
      let (a, m) := m.answer r
      (a, false, { w with holdings := .memory m })
    | .tables db =>
      let (a, db) := db.answer w.wall.toMillis r
      (a, true, { w with holdings := .tables db })

def logTurn (w : World) (key : InstanceKey) (turn : Model.Message) : Bool × World :=
  match w.holdings with
  | .memory _ => (false, w)
  | .tables db =>
    match Store.Database.appendMessage key.agentId key.sessionId turn.role.text turn.content
        w.wall.toMillis db with
    | .ok (_, db) => (true, { w with holdings := .tables db })
    | .error _ => (true, w)

end World

end Automation.Simulation
