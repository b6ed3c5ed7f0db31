import Automation.Json.Access
import Automation.Template.Catalog
import Automation.Workflow.PlanReader

/-!
# Blueprints described in JSON

A description names a template of a catalog, holds a plan, or holds a model's answer with a plan in
it. The catalog is the standard one unless the description holds another, and a further one may be
put on top of it.
-/

namespace Automation

open Json

inductive Blueprint.Error where
  | catalog (e : Catalog.Error)
  | malformedPlan
  | templateNotFound (name : String)
  /-- Nothing is described. -/
  | nothing

namespace Catalog

def ofJson (v : Value) (top : String) : Except Error Catalog := do
  let base ← match v.textAt? "catalog" with
    | some text => ofToml text
    | none => pure standard
  match v.textAt? top with
  | some text => return base.merge (← ofToml text)
  | none => return base

end Catalog

namespace Blueprint

private def ofPlan : Option Plan → Except Error Blueprint
  | some p => .ok (.plan p)
  | none => .error .malformedPlan

def ofJson (v : Value) : Except Error Blueprint :=
  match v.member? "plan", v.textAt? "plan_text", v.textAt? "template" with
  | some v, _, _ => ofPlan (Plan.decode.ofValue? v)
  | none, some answer, _ => ofPlan (Plan.ofAnswer? answer)
  | none, none, some name =>
    match Catalog.ofJson v "merge" with
    | .error e => .error (.catalog e)
    | .ok catalog =>
      match catalog.find? name with
      | some t => .ok (.template t)
      | none => .error (.templateNotFound name)
  | none, none, none => .error .nothing

end Blueprint

end Automation
