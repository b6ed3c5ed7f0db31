import Automation.Model.Fence
import Automation.Workflow.Skeleton

/-!
# Plans from model answers
-/

namespace Automation

/-- Reads a plan from a model's answer, fenced or not. -/
def Plan.ofAnswer? (answer : String) : Option Plan :=
  Plan.decode.ofText? (Model.stripFences answer)

end Automation
