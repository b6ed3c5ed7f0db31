import Automation.Intent.Category
import Automation.Workflow.Basic
import Automation.Workflow.Placeholder

/-!
# What workflows are compiled from

A step skeleton is a step whose parameters may hold placeholders. A template is a reusable list of
skeletons that can be found by what it is about; a plan is a list of skeletons made for one request.
-/

namespace Automation

open Json

structure StepSkeleton where
  id : String
  driver : String
  operation : String
  parameters : Members := []
  dependsOn : List String := []

/-- A reusable workflow skeleton. -/
structure Template where
  id : String
  name : String
  description : String := ""
  category : Category
  keywords : List String := []
  complexity : Complexity := .simple
  /-- Whether it usually needs details that the user types in. -/
  requiredUserInput : Bool := false
  steps : List StepSkeleton
  usageCount : Nat := 0
  /-- The bit pattern of a binary64 number. -/
  successRate : UInt64 := 0

/-- A skeleton made for one request. -/
structure Plan where
  name : String
  description : String := ""
  steps : List StepSkeleton := []

inductive Blueprint where
  | template (t : Template)
  | plan (p : Plan)

namespace StepSkeleton

def decode : Decoder StepSkeleton :=
  Decoder.recordWith ["step_id", "driver", "operation", "parameters", "depends_on"]
    [("id", "step_id")] fun r => do
      return {
        id := ← r.required "step_id" Decoder.string
        driver := ← r.required "driver" Decoder.string
        operation := ← r.required "operation" Decoder.string
        parameters := ← r.orElse "parameters" (Decoder.entries Decoder.value) []
        dependsOn := ← r.orElse "depends_on" (Decoder.list Decoder.string) [] }

def toJson (s : StepSkeleton) : Value :=
  .record [("step_id", .string s.id), ("driver", .string s.driver),
    ("operation", .string s.operation), ("parameters", .object s.parameters),
    ("depends_on", .strings s.dependsOn)]

end StepSkeleton

namespace Plan

def decode : Decoder Plan :=
  Decoder.record ["name", "description", "steps"] fun r => do
    return {
      name := ← r.required "name" Decoder.string
      description := ← r.orElse "description" Decoder.string ""
      steps := ← r.orElse "steps" (Decoder.list StepSkeleton.decode) [] }

def toJson (p : Plan) : Value :=
  .record [("name", .string p.name), ("description", .string p.description),
    ("steps", .array (p.steps.map StepSkeleton.toJson))]

end Plan

namespace Blueprint

def name : Blueprint → String
  | template t => t.name
  | plan p => p.name

def templateId : Blueprint → Option String
  | template t => some t.id
  | plan _ => none

def steps : Blueprint → List StepSkeleton
  | template t => t.steps
  | plan p => p.steps

end Blueprint

end Automation
