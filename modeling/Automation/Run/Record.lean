import Automation.Workflow.Basic

/-!
# What a run leaves behind

A record for every step and an account of the whole run.
-/

namespace Automation

open Json

inductive StepStatus where
  | completed
  | failed
  | skipped
deriving DecidableEq, Repr

inductive RunStatus where
  | pending
  | running
  | completed
  | partiallyFailed
  | failed
deriving DecidableEq, Repr

structure StepRecord where
  stepId : String
  driver : String
  operation : String
  status : StepStatus
  /-- How many calls were made. -/
  attempts : Nat
  output : Option Value := none
  error : Option String := none
  startedAt : Time.Instant
  finishedAt : Time.Instant
  durationMs : Nat := 0

structure RunResult where
  executionId : Id
  workflowId : Id
  status : RunStatus
  total : Nat
  succeeded : Nat
  failed : Nat
  skipped : Nat
  /-- In the order in which the steps were recorded. -/
  steps : List StepRecord
  /-- The outputs of the completed steps. -/
  context : Members
  startedAt : Time.Instant
  finishedAt : Time.Instant

namespace StepStatus

def all : List StepStatus := [completed, failed, skipped]

def text : StepStatus → String
  | completed => "completed"
  | failed => "failed"
  | skipped => "skipped"

def decode : Decoder StepStatus := Decoder.word (all.map fun s => (s.text, s))

end StepStatus

namespace RunStatus

def all : List RunStatus := [pending, running, completed, partiallyFailed, failed]

def text : RunStatus → String
  | pending => "pending"
  | running => "running"
  | completed => "completed"
  | partiallyFailed => "partially_failed"
  | failed => "failed"

def ofText? (s : String) : Option RunStatus := all.find? (·.text == s)

def isTerminal : RunStatus → Bool
  | completed | partiallyFailed | failed => true
  | pending | running => false

def decode : Decoder RunStatus := Decoder.word (all.map fun s => (s.text, s))

end RunStatus

namespace StepRecord

def decode : Decoder StepRecord :=
  Decoder.record ["step_id", "driver", "operation", "status", "attempts", "output", "error",
      "started_at", "finished_at", "duration_ms"] fun r => do
    return {
      stepId := ← r.required "step_id" Decoder.string
      driver := ← r.required "driver" Decoder.string
      operation := ← r.required "operation" Decoder.string
      status := ← r.required "status" StepStatus.decode
      attempts := ← r.required "attempts" (Decoder.natBits 32)
      output := ← r.optional "output" Decoder.value
      error := ← r.optional "error" Decoder.string
      startedAt := ← r.required "started_at" Time.Instant.decode
      finishedAt := ← r.required "finished_at" Time.Instant.decode
      durationMs := ← r.required "duration_ms" (Decoder.natBits 64) }

def toJson (s : StepRecord) : Value :=
  .record [("step_id", .string s.stepId), ("driver", .string s.driver),
    ("operation", .string s.operation), ("status", .string s.status.text),
    ("attempts", .nat s.attempts), ("output", s.output.getD .null), ("error", .text? s.error),
    ("started_at", .string s.startedAt.render), ("finished_at", .string s.finishedAt.render),
    ("duration_ms", .nat s.durationMs)]

end StepRecord

namespace RunResult

/-- The first record of a step. -/
def step? (r : RunResult) (stepId : String) : Option StepRecord :=
  r.steps.find? (·.stepId == stepId)

/-- The counts in one line. -/
def summary (r : RunResult) : String :=
  let failed := if r.failed > 0 then [toString r.failed ++ " failed"] else []
  let skipped := if r.skipped > 0 then [toString r.skipped ++ " skipped"] else []
  let base := toString r.succeeded ++ "/" ++ toString r.total ++ " steps succeeded"
  match failed ++ skipped with
  | [] => base
  | extra => base ++ " (" ++ String.intercalate ", " extra ++ ")"

def decode : Decoder RunResult :=
  Decoder.record
    ["execution_id", "workflow_id", "status", "total", "succeeded", "failed", "skipped",
      "steps", "context", "started_at", "finished_at"] fun r => do
    return {
      executionId := ← r.required "execution_id" Id.decode
      workflowId := ← r.required "workflow_id" Id.decode
      status := ← r.required "status" RunStatus.decode
      total := ← r.required "total" (Decoder.natBits 64)
      succeeded := ← r.required "succeeded" (Decoder.natBits 64)
      failed := ← r.required "failed" (Decoder.natBits 64)
      skipped := ← r.required "skipped" (Decoder.natBits 64)
      steps := ← r.required "steps" (Decoder.list StepRecord.decode)
      context := ← r.required "context" (Decoder.entries Decoder.value)
      startedAt := ← r.required "started_at" Time.Instant.decode
      finishedAt := ← r.required "finished_at" Time.Instant.decode }

def toJson (r : RunResult) : Value :=
  .record [("execution_id", .string r.executionId.text), ("workflow_id", .string r.workflowId.text),
    ("status", .string r.status.text), ("total", .nat r.total), ("succeeded", .nat r.succeeded),
    ("failed", .nat r.failed), ("skipped", .nat r.skipped),
    ("steps", .array (r.steps.map StepRecord.toJson)), ("context", .object r.context),
    ("started_at", .string r.startedAt.render), ("finished_at", .string r.finishedAt.render)]

end RunResult

end Automation
