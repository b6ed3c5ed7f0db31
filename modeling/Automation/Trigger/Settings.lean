import Automation.Json.Decode

/-!
# Settings of the search for due triggers
-/

namespace Automation

open Json

structure PollSettings where
  /-- Seconds between two passes. -/
  intervalSecs : Nat := 30
  /-- Seconds to wait in addition after a pass that failed as a whole. -/
  backoffSecs : Nat := 60
deriving DecidableEq, Repr

namespace PollSettings

/-- Milliseconds between a pass and the next one; `failed` tells whether the pass failed as a whole.
There is no such time of `2^64` seconds or more. -/
def waitMs? (s : PollSettings) (failed : Bool) : Option Nat :=
  let secs := s.intervalSecs + if failed then s.backoffSecs else 0
  if secs < UInt64.size then some (max (secs * 1000) 10) else none

def decode : Decoder PollSettings :=
  Decoder.record ["poll_interval_secs", "error_backoff_secs"] fun r => do
    let d : PollSettings := {}
    return {
      intervalSecs := ← r.orElse "poll_interval_secs" (Decoder.natBits 64) d.intervalSecs
      backoffSecs := ← r.orElse "error_backoff_secs" (Decoder.natBits 64) d.backoffSecs }

def toJson (s : PollSettings) : Value :=
  .record [("poll_interval_secs", .nat s.intervalSecs), ("error_backoff_secs", .nat s.backoffSecs)]

end PollSettings

end Automation
