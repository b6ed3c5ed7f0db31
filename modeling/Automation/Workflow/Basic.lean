import Automation.Id
import Automation.Json.Decode
import Automation.Time.Instant
import Automation.Workflow.Reference

/-!
# Workflows

A workflow is a list of steps, each a call of a driver operation, with the ids that every step waits
for and a report on whether it may run. Its document form carries a schema version, and only the
current one is read.
-/

namespace Automation

open Json

/-- One call of a driver operation. -/
structure Step where
  id : String
  driver : String
  operation : String
  parameters : Members := []
  dependsOn : List String := []

/-- What happens after a step has failed. -/
inductive ErrorPolicy where
  /-- Steps that do not depend on it still run. -/
  | continueOnFailure
  /-- All later steps are skipped. -/
  | failFast
deriving DecidableEq, Repr

/-- What validation found. -/
structure Report where
  isValid : Bool := false
  /-- Parameters that the user still has to supply, in the order found. -/
  missing : List String := []
  /-- Structural problems. -/
  errors : List String := []
deriving DecidableEq, Repr

/-- A compiled workflow. -/
structure Workflow where
  schemaVersion : Nat
  id : Id
  name : String
  templateId : Option String
  steps : List Step
  /-- For every step id the ids that it waits for. -/
  dependencies : Entries (List String)
  errorPolicy : ErrorPolicy
  /-- The parameters that it was compiled with. -/
  parameters : Entries String
  validation : Report
  createdAt : Time.Instant

def schemaVersion : Nat := 1

namespace ErrorPolicy

def text : ErrorPolicy → String
  | continueOnFailure => "continue_on_failure"
  | failFast => "fail_fast"

def decode : Decoder ErrorPolicy :=
  Decoder.word [("continue_on_failure", continueOnFailure), ("fail_fast", failFast)]

/-- The policy of a setting that says whether to go on. -/
def ofContinueFlag (goOn : Bool) : ErrorPolicy := if goOn then continueOnFailure else failFast

end ErrorPolicy

namespace Report

/-- The report on what is missing and what is wrong; valid if nothing is. -/
def of (missing errors : List String) : Report :=
  ⟨missing.isEmpty && errors.isEmpty, missing, errors⟩

def summary (r : Report) : String :=
  if r.isValid then "valid"
  else
    let names := String.intercalate ", " r.missing
    let missing := if r.missing.isEmpty then [] else [s!"missing parameters: {names}"]
    String.intercalate "; " (r.errors ++ missing)

def decode : Decoder Report :=
  Decoder.record ["is_valid", "missing_params", "errors"] fun r => do
    return {
      isValid := ← r.required "is_valid" Decoder.bool
      missing := ← r.required "missing_params" (Decoder.list Decoder.string)
      errors := ← r.required "errors" (Decoder.list Decoder.string) }

def toJson (r : Report) : Value :=
  .record [("is_valid", .bool r.isValid), ("missing_params", .strings r.missing),
    ("errors", .strings r.errors)]

end Report

namespace Step

/-- The texts without later repetitions. -/
def distinct (names : List String) : List String :=
  names.foldl (fun seen n => if seen.contains n then seen else seen ++ [n]) []

/-- The steps whose outputs the parameters refer to, each once, in the order found. -/
def referencedSteps (s : Step) : List String :=
  distinct ((Reference.inMembers s.parameters).map (·.stepId))

/-- The ids that the step waits for, declared and referenced, sorted and each once. -/
def dependencies (s : Step) : List String :=
  (Entries.ofList ((s.dependsOn ++ s.referencedSteps).map fun id => (id, ()))).keys

def decode : Decoder Step :=
  Decoder.record ["step_id", "driver", "operation", "parameters", "depends_on"] fun r => do
    return {
      id := ← r.required "step_id" Decoder.string
      driver := ← r.required "driver" Decoder.string
      operation := ← r.required "operation" Decoder.string
      parameters := ← r.orElse "parameters" (Decoder.entries Decoder.value) []
      dependsOn := ← r.orElse "depends_on" (Decoder.list Decoder.string) [] }

def toJson (s : Step) : Value :=
  .record [("step_id", .string s.id), ("driver", .string s.driver),
    ("operation", .string s.operation), ("parameters", .object s.parameters),
    ("depends_on", .strings s.dependsOn)]

end Step

def Id.decode : Decoder Id := Decoder.string.filterMap Id.ofText?

def Time.Instant.decode : Decoder Time.Instant := Decoder.string.filterMap Time.Instant.ofText?

namespace Workflow

/-- For every step id the ids that the step waits for; of two steps with one id the later counts. -/
def dependencyMap (steps : List Step) : Entries (List String) :=
  Entries.ofList (steps.map fun s => (s.id, s.dependencies))

def step? (w : Workflow) (id : String) : Option Step := w.steps.find? (·.id == id)

/-- The ids that a step waits for; none for an unknown id. -/
def dependenciesOf (w : Workflow) (id : String) : List String :=
  (Entries.get? w.dependencies id).getD []

def decode : Decoder Workflow :=
  Decoder.record ["schema_version", "workflow_id", "name", "template_id", "steps", "dependencies",
      "error_policy", "parameters", "validation", "created_at"] fun r => do
    return {
      schemaVersion := ← r.required "schema_version" (Decoder.natBits 32)
      id := ← r.required "workflow_id" Id.decode
      name := ← r.required "name" Decoder.string
      templateId := ← r.optional "template_id" Decoder.string
      steps := ← r.required "steps" (Decoder.list Step.decode)
      dependencies := ← r.required "dependencies" (Decoder.entries (Decoder.list Decoder.string))
      errorPolicy := ← r.required "error_policy" ErrorPolicy.decode
      parameters := ← r.required "parameters" (Decoder.entries Decoder.string)
      validation := ← r.required "validation" Report.decode
      createdAt := ← r.required "created_at" Time.Instant.decode }

def toJson (w : Workflow) : Value :=
  .record [("schema_version", .nat w.schemaVersion), ("workflow_id", .string w.id.text),
    ("name", .string w.name), ("template_id", .text? w.templateId),
    ("steps", .array (w.steps.map Step.toJson)),
    ("dependencies", .object (w.dependencies.mapValues .strings)),
    ("error_policy", .string w.errorPolicy.text), ("parameters", .stringMap w.parameters),
    ("validation", w.validation.toJson), ("created_at", .string w.createdAt.render)]

def render (w : Workflow) : String := w.toJson.render

inductive DocumentError where
  | malformed
  | unsupportedVersion (found : Nat)
deriving DecidableEq, Repr

def DocumentError.message : DocumentError → String
  | malformed => "json error"
  | unsupportedVersion found =>
    let current := Automation.schemaVersion
    s!"unsupported workflow schema version {found} (expected {current})"

def checkVersion (w : Workflow) : Except DocumentError Workflow :=
  if w.schemaVersion = Automation.schemaVersion then .ok w
  else .error (.unsupportedVersion w.schemaVersion)

def read (text : String) : Except DocumentError Workflow :=
  match decode.ofText? text with
  | none => .error .malformed
  | some w => w.checkVersion

end Workflow

end Automation
