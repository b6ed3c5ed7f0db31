import Automation.Driver.Registry
import Automation.Model.Basic
import Automation.Workflow.PlanReader

/-!
# Plans by a model

Where no template fits, a model is shown every operation of the registry and asked for a plan.
-/

namespace Automation.Plan

open Model

def instructions : String := String.intercalate "\n" [
  "You turn automation requests into workflow plans.",
  "",
  "Respond ONLY with a JSON object:",
  "\x7b",
  "  \"name\": \"short workflow name\",",
  "  \"description\": \"one sentence\",",
  "  \"steps\": [",
  "    \x7b",
  "      \"step_id\": \"unique_snake_case_id\",",
  "      \"driver\": \"driver name from the list\",",
  "      \"operation\": \"operation name from the list\",",
  "      \"parameters\": \x7b\"param\": \"value\"\x7d,",
  "      \"depends_on\": [\"earlier_step_id\"]",
  "    \x7d",
  "  ]",
  "\x7d",
  "",
  "Rules:",
  "- Use only the drivers and operations listed below.",
  "- Supply every required parameter.  Use \"\x7b\x7bname\x7d\x7d\" for a value the user has",
  "  not given yet, where name is a short snake_case label.",
  "- To use an earlier step's result, write \"step:<step_id>.output\" (or",
  "  \"step:<step_id>.output.<field>\") as the parameter value.",
  "- Do not include explanations or markdown."]

/-- The names in parentheses behind a label, unless there are none. -/
private def listed (label : String) (names : List String) : String :=
  if names.isEmpty then "" else " (" ++ label ++ ": " ++ String.intercalate ", " names ++ ")"

private def operationLine (o : Operation) : String :=
  "  - " ++ o.name ++ listed "required" o.required ++ listed "optional" o.optional ++ "\n"

private def driverLines (d : DriverInfo) : String :=
  "- " ++ d.name ++ ": " ++ d.description ++ "\n" ++ String.join (d.operations.map operationLine)

/-- The instructions with all operations. -/
def systemText (registry : Registry) : String :=
  instructions ++ "\n\nAvailable drivers:\n" ++ String.join (registry.toList.map driverLines)

/-- The request with what is known. -/
def requestText (text : String) (known : Entries String) : String :=
  if known.isEmpty then text
  else text ++ "\n\nKnown values:" ++ String.join (known.map fun (k, v) => "\n- " ++ k ++ ": " ++ v)

inductive Failure where
  | model (e : Model.Error)
  | malformed

def ofModelAnswer : Model.Answer → Except Failure Plan
  | .error e => .error (.model e)
  | .ok answer =>
    match ofAnswer? answer with
    | some p => .ok p
    | none => .error .malformed

def request (registry : Registry) (text : String) (known : Entries String) :
    Asking (Except Failure Plan) := do
  let message : Message := { role := .user, content := requestText text known }
  let answer ← Asking.ask ⟨systemText registry, [message]⟩
  return ofModelAnswer answer

end Automation.Plan
