import Automation.Run.Attempt
import Automation.Run.Record
import Automation.Workflow.Compile

/-!
# Running a workflow

Steps run when everything they wait for is recorded, the one declared first before the others, or
all of them together. Before a step is dispatched its references are replaced by the outputs known
so far; a step is skipped if something it waits for did not complete, if a reference cannot be
replaced, or if an earlier failure has halted the run.

The clock is read when a run starts and when it ends, but not for its single steps: their records
have the start of the run as both their times and no duration.
-/

namespace Automation

open Json

inductive RunRequest where
  /-- The time. -/
  | now
  /-- Attempt these calls, all at once. -/
  | dispatch (calls : List StepCall)

/-- The calls are answered by a verdict for each, in their order. -/
abbrev RunRequest.Answer : RunRequest → Type
  | now => Time.Instant
  | dispatch _ => List Verdict

abbrev Running := Process RunRequest RunRequest.Answer

def Running.now : Running Time.Instant := .ask .now .done

/-- What runs workflows. -/
structure Engine where
  registry : Registry
  settings : RunSettings := {}

namespace Run

/-- Where a run stands: the records made so far with the positions of their steps, latest first, the
outputs, and whether a failure has halted it. -/
structure State where
  recorded : List (Nat × StepRecord) := []
  outputs : Outputs := []
  halted : Bool := false

/-- The position of the last step with the id. -/
def positionOf? (steps : List Step) (id : String) : Option Nat :=
  go 0 none steps
where
  go (at_ : Nat) (found : Option Nat) : List Step → Option Nat
    | [] => found
    | s :: rest => go (at_ + 1) (if s.id = id then some at_ else found) rest

def State.record? (s : State) (position : Nat) : Option StepRecord := s.recorded.lookup position

/-- The record of what an id stands for. -/
def State.recordOf? (s : State) (steps : List Step) (id : String) : Option StepRecord := do
  s.record? (← positionOf? steps id)

/-- Whether everything that a step waits for is recorded. -/
def isReady (w : Workflow) (s : State) (step : Step) : Bool :=
  (w.dependenciesOf step.id).all fun d => (s.recordOf? w.steps d).isSome

/-- Why a step is not dispatched. -/
inductive SkipReason where
  | halted
  | blockedBy (stepId : String)
  | unresolved (e : Outputs.Error)
  | neverReady

def SkipReason.message : SkipReason → String
  | halted => "skipped after an earlier failure (fail-fast)"
  | blockedBy id => s!"dependency `{id}` did not complete"
  | unresolved e => e.message
  | neverReady => "dependencies can never complete"

/-- The first id that the step waits for and that did not complete. -/
def blocker? (w : Workflow) (s : State) (step : Step) : Option String :=
  (w.dependenciesOf step.id).find? fun d =>
    match s.recordOf? w.steps d with
    | some r => r.status ≠ .completed
    | none => false

/-- The call of the step at a position with its references replaced, or why there is none. -/
def prepare (w : Workflow) (s : State) (position : Nat) (step : Step) :
    Except SkipReason StepCall :=
  if s.halted then .error .halted
  else match blocker? w s step with
    | some id => .error (.blockedBy id)
    | none =>
      match s.outputs.resolveMembers step.parameters with
      | .error e => .error (.unresolved e)
      | .ok parameters => .ok ⟨position, step.driver, step.operation, parameters, s.outputs⟩

/-- The record of a step that was not dispatched, in a run that started `now`. -/
def skippedRecord (step : Step) (reason : SkipReason) (now : Time.Instant) : StepRecord where
  stepId := step.id
  driver := step.driver
  operation := step.operation
  status := .skipped
  attempts := 0
  error := some reason.message
  startedAt := now
  finishedAt := now

/-- The record of a step that was dispatched, in a run that started `now`. It tells neither when the
step itself started nor how long it took. -/
def attemptedRecord (step : Step) (v : Verdict) (now : Time.Instant) : StepRecord where
  stepId := step.id
  driver := step.driver
  operation := step.operation
  status := match v.result with
    | .ok _ => .completed
    | .error _ => .failed
  attempts := v.attempts
  output := v.result.toOption
  error := match v.result with
    | .ok _ => none
    | .error e => some e
  startedAt := now
  finishedAt := now

def State.skip (s : State) (position : Nat) (step : Step) (reason : SkipReason)
    (now : Time.Instant) : State :=
  { s with recorded := (position, skippedRecord step reason now) :: s.recorded }

/-- Records a step that was dispatched: its output if it completed, and a halt if it failed and the
policy asks for one. -/
def State.conclude (s : State) (policy : ErrorPolicy) (position : Nat) (step : Step) (v : Verdict)
    (now : Time.Instant) : State :=
  let s := { s with recorded := (position, attemptedRecord step v now) :: s.recorded }
  match v.result with
  | .ok output => { s with outputs := (s.outputs.add step.id output).2 }
  | .error _ => { s with halted := s.halted || policy = .failFast }

/-- Records steps that were not dispatched, in their order. -/
def State.skipAll (s : State) (now : Time.Instant) (skipped : List (Nat × Step × SkipReason)) :
    State :=
  skipped.foldl (fun s (i, step, reason) => s.skip i step reason now) s

/-- Records steps that were dispatched, in their order, each with its verdict. -/
def State.concludeAll (s : State) (policy : ErrorPolicy) (now : Time.Instant)
    (attempted : List ((Nat × Step × StepCall) × Verdict)) : State :=
  attempted.foldl (fun s ((i, step, _), v) => s.conclude policy i step v now) s

def skips (w : Workflow) (s : State) (batch : List (Nat × Step)) : List (Nat × Step × SkipReason) :=
  batch.filterMap fun (i, step) =>
    match prepare w s i step with
    | .error reason => some (i, step, reason)
    | .ok _ => none

def dispatches (w : Workflow) (s : State) (batch : List (Nat × Step)) :
    List (Nat × Step × StepCall) :=
  batch.filterMap fun (i, step) =>
    match prepare w s i step with
    | .error _ => none
    | .ok c => some (i, step, c)

def calls (w : Workflow) (s : State) (batch : List (Nat × Step)) : List StepCall :=
  (dispatches w s batch).map fun (_, _, c) => c

/-- Where a run stands after a batch: first the steps that were not dispatched are recorded, then
the others. -/
def afterBatch (w : Workflow) (now : Time.Instant) (s : State) (batch : List (Nat × Step))
    (verdicts : List Verdict) : State :=
  (s.skipAll now (skips w s batch)).concludeAll w.errorPolicy now
    ((dispatches w s batch).zip verdicts)

/-- The steps that may start, in declaration order. -/
def ready (w : Workflow) (s : State) (remaining : List (Nat × Step)) : List (Nat × Step) :=
  remaining.filter fun (_, step) => isReady w s step

/-- The steps that are started next: all that may start, or the first of them. -/
def nextBatch (concurrent : Bool) (ready : List (Nat × Step)) : List (Nat × Step) :=
  if concurrent then ready else ready.take 1

/-- Steps that can never start, with the reason. -/
def neverReady (remaining : List (Nat × Step)) : List (Nat × Step × SkipReason) :=
  remaining.map fun (i, step) => (i, step, .neverReady)

/-- The steps of a workflow with their places. -/
def positions (w : Workflow) : List (Nat × Step) := (List.range w.steps.length).zip w.steps

def without (batch remaining : List (Nat × Step)) : List (Nat × Step) :=
  remaining.filter fun (i, _) => !batch.any fun (j, _) => i == j

theorem length_without_lt {w : Workflow} {s : State} {concurrent : Bool}
    {remaining : List (Nat × Step)} (h : ready w s remaining ≠ []) :
    (without (nextBatch concurrent (ready w s remaining)) remaining).length < remaining.length := by
  obtain ⟨x, xs, hx⟩ := List.exists_cons_of_ne_nil h
  have hmem : x ∈ remaining := by
    have : x ∈ ready w s remaining := by simp [hx]
    exact (List.mem_filter.1 this).1
  have hbatch : x ∈ nextBatch concurrent (ready w s remaining) := by
    rw [hx]
    unfold nextBatch
    split <;> simp
  unfold without
  refine List.length_filter_lt_length_iff_exists.2 ⟨x, hmem, ?_⟩
  simp only [Bool.not_eq_true, Bool.not_eq_false', List.any_eq_true]
  exact ⟨x, hbatch, by simp⟩

/-- Runs the remaining steps batch by batch. Steps that wait for each other, or for something that
is not there, are skipped in the end. -/
def loop (w : Workflow) (concurrent : Bool) (now : Time.Instant) (remaining : List (Nat × Step))
    (s : State) : Running State :=
  if _h : ready w s remaining = [] then
    .done (s.skipAll now (neverReady remaining))
  else
    let batch := nextBatch concurrent (ready w s remaining)
    .ask (.dispatch (calls w s batch)) fun verdicts =>
      loop w concurrent now (without batch remaining) (afterBatch w now s batch verdicts)
termination_by remaining.length
decreasing_by exact length_without_lt _h

/-- The status of a run of so many steps, so many of which completed. -/
def overallStatus (total succeeded : Nat) : RunStatus :=
  if succeeded = total then .completed
  else if succeeded = 0 then .failed
  else .partiallyFailed

/-- The account of a finished run. -/
def result (w : Workflow) (executionId : Id) (started finished : Time.Instant) (s : State) :
    RunResult :=
  let steps := (s.recorded.map (·.2)).reverse
  let count (status : StepStatus) := (steps.filter (·.status = status)).length
  { executionId
    workflowId := w.id
    status := overallStatus w.steps.length (count .completed)
    total := w.steps.length
    succeeded := count .completed
    failed := count .failed
    skipped := count .skipped
    steps
    context := s.outputs
    startedAt := started
    finishedAt := finished }

end Run

namespace Engine

/-- Runs a workflow under an execution id. It must be valid by its own report. The records of its
steps have the time when the run started. -/
def execute (e : Engine) (w : Workflow) (executionId : Id) :
    Running (Except Workflow.Invalid RunResult) :=
  match w.ensureValid with
  | .error invalid => .done (.error invalid)
  | .ok () => do
    let started ← Running.now
    let s ← Run.loop w e.settings.concurrent started (Run.positions w) {}
    let finished ← Running.now
    return .ok (Run.result w executionId started finished s)

end Engine

end Automation
