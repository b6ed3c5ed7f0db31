import Automation.Driver.Registry
import Automation.Workflow.Cycle
import Automation.Workflow.Skeleton

/-!
# Compilation and validation

Compilation fills the placeholders of a blueprint with parameters and validates the result against
the registry. A placeholder that stays in a required parameter makes its name a missing one; an
optional parameter that cannot be filled is left out. A workflow that fails validation is returned
with its report, so that the user can be asked, but it does not run.
-/

namespace Automation

open Json

/-- What compilation depends on. -/
structure Compiler where
  registry : Registry
  errorPolicy : ErrorPolicy := .continueOnFailure

namespace Compiler

def requiredOf (registry : Registry) (driver operation : String) : List String :=
  match registry.requiredParams driver operation with
  | .ok names => names
  | .error _ => []

/-- The skeleton's parameters filled in; one that stays open is left out unless it is required. -/
def bindParameters (required : List String) (params : Params) : Members → Members
  | [] => []
  | (key, raw) :: rest =>
    let (value, unbound) := Placeholder.bind params raw
    if unbound && !required.contains key then bindParameters required params rest
    else (key, value) :: bindParameters required params rest

/-- Takes required parameters that the skeleton does not mention from the user's parameters. -/
def addRequired (params : Params) (bound : Members) (required : List String) : Members :=
  let take := fun bound key =>
    if Entries.has bound key then bound
    else match Entries.get? params key with
      | some v => Entries.insert bound key (.string v)
      | none => bound
  required.foldl take bound

def bindStep (registry : Registry) (params : Params) (s : StepSkeleton) : Step :=
  let required := requiredOf registry s.driver s.operation
  { id := s.id
    driver := s.driver
    operation := s.operation
    parameters := addRequired params (bindParameters required params s.parameters) required
    dependsOn := s.dependsOn }

/-- What is missing for a required parameter with this value. A reference will be replaced later; a
text without placeholders is there unless it is blank. -/
def missingNames (param : String) : Option Value → List String
  | none => [param]
  | some .null => [param]
  | some (.string s) =>
    if (Reference.ofText? s).isSome then []
    else if Text.isBlankText s then [param]
    else Placeholder.keysInText s
  | some v => Placeholder.keysIn v

/-- The texts with those added that are not among them. -/
def addNew (names new : List String) : List String :=
  new.foldl (fun seen n => if seen.contains n then seen else seen ++ [n]) names

/-- Every id that an earlier step has already taken, in order. -/
def duplicateIds : (seen : List String) → List String → List String
  | _, [] => []
  | seen, id :: rest =>
    if seen.contains id then id :: duplicateIds seen rest else duplicateIds (id :: seen) rest

/-- The structural problems of one step among steps with these ids. -/
def stepErrors (registry : Registry) (ids : List String) (s : Step) : List String :=
  let step := s.id
  let unknown := (s.dependsOn.filter (!ids.contains ·)).map fun dep =>
    s!"step `{step}` depends on unknown step `{dep}`"
  let dangling := (s.referencedSteps.filter (!ids.contains ·)).map fun r =>
    s!"step `{step}` references unknown step `{r}`"
  let driver := s.driver
  let operation := s.operation
  let unsupported :=
    if !registry.has driver then [s!"step `{step}`: unknown driver `{driver}`"]
    else if !registry.supports driver operation then
      [s!"step `{step}`: driver `{driver}` does not support operation `{operation}`"]
    else []
  unknown ++ dangling ++ unsupported

/-- The names that are missing for one step. -/
def stepMissing (registry : Registry) (s : Step) : List String :=
  (requiredOf registry s.driver s.operation).flatMap fun p =>
    missingNames p (Entries.get? s.parameters p)

/-- The report on a workflow. -/
def validate (registry : Registry) (w : Workflow) : Report :=
  let ids := w.steps.map (·.id)
  let empty := if w.steps.isEmpty then ["workflow has no steps"] else []
  let duplicates := (duplicateIds [] ids).map fun id => s!"duplicate step id `{id}`"
  let perStep := w.steps.flatMap (stepErrors registry ids)
  let cycle := match w.findCycle with
    | some path =>
      let text := String.intercalate " -> " path
      [s!"circular dependency detected: {text}"]
    | none => []
  Report.of (addNew [] (w.steps.flatMap (stepMissing registry)))
    (empty ++ duplicates ++ perStep ++ cycle)

/-- The workflow of a blueprint, with the report on it. -/
def compile (c : Compiler) (id : Id) (now : Time.Instant) (b : Blueprint) (params : Params) :
    Workflow :=
  let steps := b.steps.map (bindStep c.registry params)
  let w : Workflow := {
    schemaVersion := Automation.schemaVersion
    id := id
    name := b.name
    templateId := b.templateId
    steps := steps
    dependencies := Workflow.dependencyMap steps
    errorPolicy := c.errorPolicy
    parameters := params
    validation := {}
    createdAt := now }
  { w with validation := validate c.registry w }

end Compiler

/-- A workflow that does not run, with the report on it. -/
structure Workflow.Invalid where
  id : Id
  report : Report
deriving DecidableEq, Repr

def Workflow.Invalid.message (e : Workflow.Invalid) : String :=
  let id := e.id.text
  let summary := e.report.summary
  s!"workflow {id} is invalid: {summary}"

namespace Workflow

/-- A workflow whose own report says that it is valid. -/
def ensureValid (w : Workflow) : Except Invalid Unit :=
  if w.validation.isValid then .ok () else .error ⟨w.id, w.validation⟩

/-- A workflow that is valid against the registry as it is now. -/
def revalidate (registry : Registry) (w : Workflow) : Except Invalid Unit :=
  let report := Compiler.validate registry w
  if report.isValid then .ok () else .error ⟨w.id, report⟩

end Workflow

namespace Report

/-- The names in one phrase. -/
def phrase : List String → String
  | [] => ""
  | [one] => one
  | names =>
    let init := String.intercalate ", " names.dropLast
    let last := (names.getLast?).getD ""
    s!"{init} and {last}"

/-- The names in a question, sorted and each once, with spaces for underscores. -/
def spoken (missing : List String) : String :=
  let spaced := missing.map fun p =>
    String.ofList (p.toList.map fun c => if c == '_' then ' ' else c)
  phrase (Entries.ofList (spaced.map fun n => (n, ()))).keys

def asking (missing : List String) : String :=
  let names := spoken missing
  s!"I need a bit more information before I can run this. What is the {names}?"

/-- What is said about structural errors. -/
def complaint (errors : List String) : String :=
  let list := String.intercalate "; " errors
  s!"I couldn't build that workflow: {list}. Could you rephrase the request?"

def question (r : Report) : Option String :=
  if r.isValid then none
  else if r.missing.isEmpty then some (complaint r.errors)
  else some (asking r.missing)

end Report

end Automation
