import Automation.Simulation.World

/-!
# Running in a world

A process goes on until it asks for something that takes time. Tasks that can go on do so in the
order in which they were woken; when nobody can, the clock moves to the next time that somebody
waits for.
-/

namespace Automation.Simulation.World

def stopPolling (w : World) : Option Nat × World :=
  let (n, polling) := w.polling.stop
  let called := w.tasks.filter fun t => match t.search with
    | some s => polling.phases[s]? = some .called
    | none => false
  (n, (called.foldl (fun w t => w.awaken t.number) { w with polling }))

/-- The number of the search that somebody is. -/
def searchOf (w : World) (owner : Owner) : Nat :=
  match owner with
  | .foreground => 0
  | .task n => ((w.tasks[n]?).bind (·.search)).getD 0

def runTask (engine : Engine) (run : TriggeredRun) : Serving Deed :=
  (run.process engine).andThen fun r => .done (.run run.executionId r)

/-- A round of a search as a task. -/
def roundTask (w : World) : Serving Deed :=
  (Trigger.searchRound w.engine w.pollSettings).andThen fun more => .done (.round more)

/-- Goes on with a process until it waits or ends. -/
def advance {α : Type} (owner : Owner) : Serving α → World → Suspended α × World
  | .done a, w => (.ended a, w)
  | .ask .now next, w => advance owner (next w.wall) w
  | .ask .freshId next, w =>
    let (id, w) := w.freshId
    advance owner (next id) w
  | .ask (.complete p) next, w =>
    let (a, model) := w.model.answer p
    advance owner (next a) { w with model }
  | .ask (.dispatch engine calls) next, w =>
    let (jobs, w) := inOrder (fun c w =>
      w.attempt owner (Attempt.run engine.registry engine.settings c)) calls w
    match verdicts? jobs with
    | some vs => advance owner (next vs) w
    | none => (.attempting jobs next, w)
  | .ask (.repository r) next, w =>
    let (a, takesTime, w) := w.ask r
    if takesTime then (.storing (next a), { w with storing := w.storing ++ [owner] })
    else advance owner (next a) w
  | .ask (.logTurn key turn) next, w =>
    let (takesTime, w) := w.logTurn key turn
    if takesTime then (.storing (next ()), { w with storing := w.storing ++ [owner] })
    else advance owner (next ()) w
  | .ask (.claim id) next, w =>
    let (free, taken) := Claims.claim w.taken id
    advance owner (next free) { w with taken }
  | .ask (.release id) next, w =>
    advance owner (next ()) { w with taken := Claims.release w.taken id }
  | .ask .claimed next, w => advance owner (next w.taken) w
  | .ask (.launch engine run) next, w =>
    advance owner (next ()) (w.spawn 0 (runTask engine run)).2
  | .ask (.awaitRun id) next, w =>
    match w.runOutcome? id with
    | some r => advance owner (next r) w
    | none => (.awaitingRun id next, w)
  | .ask (.openInstance key initData) next, w =>
    let (i, instances) := w.instances.getOrCreate key initData w.wall
    advance owner (next (i.status w.wall)) { w with instances }
  | .ask (.beginTurn key) next, w =>
    let (i, instances) := w.instances.beginTurn key w.wall
    advance owner (next (i.map fun i => (i.serial, i.conversation))) { w with instances }
  | .ask (.keepTurn serial c) next, w =>
    advance owner (next ()) { w with instances := w.instances.store serial c }
  | .ask (.endTurn serial c) next, w =>
    advance owner (next ()) { w with instances := w.instances.finish serial c w.wall }
  | .ask (.removeInstance key) next, w =>
    let found := (w.instances.get? key).isSome
    advance owner (next found) { w with instances := w.instances.remove key }
  | .ask .listInstances next, w => advance owner (next (w.instances.statuses w.wall)) w
  | .ask .clearInstances next, w =>
    advance owner (next ()) { w with instances := w.instances.clear }
  | .ask .isPolling next, w => advance owner (next w.polling.running) w
  | .ask .startPolling next, w =>
    match w.polling.start? with
    | none => advance owner (next false) w
    | some (n, polling) =>
      advance owner (next true) (({ w with polling }).spawn 0 w.roundTask (some n)).2
  | .ask .stopPolling next, w =>
    let (n, w) := w.stopPolling
    match n with
    | some n =>
      if w.polling.hasEnded n then advance owner (next ()) w
      else (.awaitingSearch n (next ()), w)
    | none => advance owner (next ()) w
  | .ask .keepsPolling next, w =>
    let (going, polling) := w.polling.observe (w.searchOf owner)
    advance owner (next going) { w with polling }
  | .ask (.restPolling ms) next, w =>
    let n := w.searchOf owner
    let (called, polling) := w.polling.rest n
    let w := { w with polling }
    if called then advance owner (next true) w
    else (.resting (w.clock + ms) n next, w.addTimer (w.clock + ms) owner)

def isDue {α : Type} (w : World) (owner : Owner) : Suspended α → Bool
  | .ready _ => true
  | .sleeping wake _ => wake ≤ w.clock
  | .attempting jobs _ => jobs.any fun
    | .finished _ => false
    | .pausing wake _ | .calling wake _ _ _ => wake ≤ w.clock
  | .storing _ => !w.storing.contains owner
  | .awaitingRun id _ => (w.runOutcome? id).isSome
  | .awaitingTask n _ => w.deeds.any (·.1 == n)
  | .awaitingSearch n _ => w.polling.hasEnded n
  | .resting wake n _ => wake ≤ w.clock || w.polling.phases[n]? = some .called
  | .ended _ => false

/-- Goes on with a process if what it waits for has come. -/
def resume {α : Type} (owner : Owner) (s : Suspended α) (w : World) : Suspended α × World :=
  if !w.isDue owner s then (s, w)
  else match s with
    | .ready p | .sleeping _ p | .storing p | .awaitingSearch _ p => w.advance owner p
    | .attempting jobs next =>
      let (jobs, w) := inOrder (resumeJob owner) jobs w
      match verdicts? jobs with
      | some vs => w.advance owner (next vs)
      | none => (.attempting jobs next, w)
    | .awaitingRun id next =>
      match w.runOutcome? id with
      | some r => w.advance owner (next r)
      | none => (s, w)
    | .awaitingTask n next =>
      match w.deeds.lookup n with
      | some d => w.advance owner (next d)
      | none => (s, w)
    | .resting _ n next =>
      let called := w.polling.phases[n]? = some .called
      let w := { w with timers := w.timers.filter (·.2 ≠ owner) }
      if called then ({ w with polling := w.polling.set n .ended }).advance owner (next true)
      else w.advance owner (next false)
    | .ended a => (.ended a, w)

def setTask (w : World) (n : Nat) (state : Suspended Deed) : World :=
  { w with tasks := w.tasks.map fun t => if t.number = n then { t with state } else t }

/-- Wakes the tasks that wait for the end of a task. -/
def tell (w : World) : World :=
  let waiting := w.tasks.filter fun t => match t.state with
    | .awaitingRun _ _ | .awaitingTask _ _ | .awaitingSearch _ _ => w.isDue (.task t.number) t.state
    | _ => false
  waiting.foldl (fun w t => w.awaken t.number) w

/-- Goes on with a task. A search that goes on begins another round. -/
def stepTask (w : World) (n : Nat) : World :=
  match w.tasks[n]? with
  | none => w
  | some t =>
    match w.resume (.task n) t.state with
    | (.ended (.round true), w) => (w.setTask n (.ready w.roundTask)).awaken n
    | (.ended (.round false), w) =>
      let w := { w with polling := w.polling.set (t.search.getD 0) .ended }
      (w.setTask n (.ended (.round false))).tell
    | (.ended d, w) =>
      ({ w with deeds := w.deeds ++ [(n, d)] }.setTask n (.ended d)).tell
    | (state, w) => w.setTask n state

def wake (w : World) : Owner → World
  | .foreground => w
  | .task n => w.awaken n

/-- When nobody can go on: an operation of the store ends, or the clock moves to the next time that
somebody waits for. -/
def wait? (w : World) : Option World :=
  match w.storing with
  | owner :: rest => some (({ w with storing := rest }).wake owner)
  | [] =>
    match (w.timers.map (·.1)).min? with
    | none => none
    | some time =>
      let clock := max w.clock time
      let (due, later) := w.timers.partition (·.1 ≤ clock)
      some (due.foldl (fun w (_, owner) => w.wake owner) { w with clock, timers := later })

/-- Runs the foreground process to its end. After a wait it goes first; otherwise it goes on when no
task can. -/
def settle {α : Type} : (fuel : Nat) → (first : Bool) → Suspended α → World → Option α × World
  | 0, _, _, w => (none, w)
  | _, _, .ended a, w => (some a, w)
  | fuel + 1, first, s, w =>
    if (first || w.ready.isEmpty) && w.isDue .foreground s then
      let (s, w) := w.resume .foreground s
      settle fuel false s w
    else match w.ready with
      | n :: rest => settle fuel false s (({ w with ready := rest }).stepTask n)
      | [] =>
        match w.wait? with
        | some w => settle fuel true s w
        | none => (none, w)

/-- More steps than any process takes. -/
def steps : Nat := 1000000000

/-- Runs a process in the foreground. -/
def perform {α : Type} (w : World) (p : Serving α) : Option α × World :=
  settle steps true (.ready p) w

def sleep (w : World) (ms : Nat) : World :=
  let due := w.clock + ms
  (settle steps true (.sleeping due (.done ())) (w.addTimer due .foreground)).2

def await (w : World) (n : Nat) : Option Deed × World := settle steps true (.awaitingTask n .done) w

end Automation.Simulation.World
