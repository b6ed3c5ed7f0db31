import Automation.Json.Decode

/-!
# Settings of a run

How long a driver may take, whether independent steps run together, and how failed calls are
repeated.
-/

namespace Automation

open Json

structure RunSettings where
  /-- How many seconds a driver may take to answer. -/
  stepTimeoutSecs : Nat := 30
  /-- Whether independent steps go on after a failure. -/
  continueOnFailure : Bool := true
  /-- Whether all steps that are ready are started together. -/
  concurrent : Bool := false
  /-- How often a failed call is repeated. -/
  maxRetries : Nat := 0
  /-- Milliseconds before the first repetition; each later pause is twice as long. -/
  retryDelayMs : Nat := 250
deriving DecidableEq, Repr

namespace RunSettings

def maxWord : Nat := UInt64.size - 1

/-- Milliseconds before repetition `attempt`, counted from 0. The doubling stops after 16 steps. -/
def retryDelay (s : RunSettings) (attempt : Nat) : Nat :=
  min (s.retryDelayMs * Nat.pow 2 (min attempt 16)) maxWord

def maxAttempts (s : RunSettings) : Nat := min (s.maxRetries + 1) (UInt32.size - 1)

def decode : Decoder RunSettings :=
  Decoder.record ["step_timeout_secs", "continue_on_failure", "concurrent", "max_retries",
      "retry_delay_ms"] fun r => do
    let d : RunSettings := {}
    return {
      stepTimeoutSecs := ← r.orElse "step_timeout_secs" (Decoder.natBits 64) d.stepTimeoutSecs
      continueOnFailure := ← r.orElse "continue_on_failure" Decoder.bool d.continueOnFailure
      concurrent := ← r.orElse "concurrent" Decoder.bool d.concurrent
      maxRetries := ← r.orElse "max_retries" (Decoder.natBits 32) d.maxRetries
      retryDelayMs := ← r.orElse "retry_delay_ms" (Decoder.natBits 64) d.retryDelayMs }

def toJson (s : RunSettings) : Value :=
  .record [("step_timeout_secs", .nat s.stepTimeoutSecs),
    ("continue_on_failure", .bool s.continueOnFailure), ("concurrent", .bool s.concurrent),
    ("max_retries", .nat s.maxRetries), ("retry_delay_ms", .nat s.retryDelayMs)]

end RunSettings

end Automation
