import Automation.Driver.Registry
import Automation.Process
import Automation.Run.Settings

/-!
# Attempts

A step calls its driver until a call succeeds or the allowed number of calls is used up, with a
pause before every repetition. A driver that does not answer in time counts as a failed call.
-/

namespace Automation

open Json

/-- A driver call with resolved parameters and the outputs known so far. -/
structure StepCall where
  /-- The place of the step among the steps of its workflow. -/
  position : Nat
  driver : String
  operation : String
  parameters : Members
  context : Members

/-- What a step asks for while it is attempted. -/
inductive AttemptRequest where
  /-- Call the driver and wait so many seconds. -/
  | call (c : StepCall) (timeoutSecs : Nat)
  /-- Let so many milliseconds pass. -/
  | pause (ms : Nat)

/-- The answer to a call is the driver's outcome, or nothing if none came in time. -/
abbrev AttemptRequest.Answer : AttemptRequest → Type
  | call _ _ => Option Outcome
  | pause _ => Unit

abbrev Attempting := Process AttemptRequest AttemptRequest.Answer

def Attempting.pause (ms : Nat) : Attempting Unit := .ask (.pause ms) .done

def Attempting.call (c : StepCall) (timeoutSecs : Nat) : Attempting (Option Outcome) :=
  .ask (.call c timeoutSecs) .done

/-- How the attempts at a step ended: how many calls were made, and the output or the error of the
last one. -/
structure Verdict where
  attempts : Nat
  result : Except String Value

namespace Attempt

def timeoutText (secs : Nat) : String :=
  "timed out after " ++ Decimal.renderPlain (Float.ofNat secs).toBits ++ "s"

/-- What the answer to a call amounts to. -/
def judge (timeoutSecs : Nat) : Option Outcome → Except String Value
  | none => .error (timeoutText timeoutSecs)
  | some o =>
    if o.success then .ok o.effectiveOutput
    else .error (o.error.getD "driver reported failure")

/-- Up to `left` further calls after `made` calls, the last of which failed with `error`. -/
def repeatCalls (settings : RunSettings) (c : StepCall) :
    (left made : Nat) → (error : String) → Attempting Verdict
  | 0, made, error => .done ⟨made, .error error⟩
  | left + 1, made, _ => do
    if made > 0 then
      Attempting.pause (settings.retryDelay (made - 1))
    let answer ← Attempting.call c settings.stepTimeoutSecs
    match judge settings.stepTimeoutSecs answer with
    | .ok output => return ⟨made + 1, .ok output⟩
    | .error e => repeatCalls settings c left (made + 1) e

/-- The attempts at a call. A driver that is not registered fails it without any call. -/
def run (registry : Registry) (settings : RunSettings) (c : StepCall) : Attempting Verdict :=
  match registry.find c.driver with
  | .error e => .done ⟨0, .error e.message⟩
  | .ok _ => repeatCalls settings c settings.maxAttempts 0 ""

end Attempt

end Automation
