import Automation.Json.Printer
import Automation.Text.Case
import Automation.Trigger.CronReader

/-!
# Schedules

A schedule says when something is due again after it was last done: when so many minutes, hours or
days have passed, or at the next recurring time.
-/

namespace Automation

open Json

inductive IntervalUnit where
  | minutes
  | hours
  | days
deriving DecidableEq, Repr

namespace IntervalUnit

def all : List IntervalUnit := [minutes, hours, days]

def text : IntervalUnit → String
  | minutes => "minutes"
  | hours => "hours"
  | days => "days"

def words : IntervalUnit → List String
  | minutes => ["m", "min", "mins", "minute", "minutes"]
  | hours => ["h", "hour", "hours"]
  | days => ["d", "day", "days"]

def seconds : IntervalUnit → Nat
  | minutes => 60
  | hours => 3600
  | days => 86400

/-- Reads a unit in any case and with blanks around it. -/
def ofText? (s : String) : Option IntervalUnit :=
  let word := Text.asciiLower (Text.trim s)
  all.find? (·.words.contains word)

end IntervalUnit

/-- When something is due. -/
inductive Schedule where
  | interval (every : Nat) (unit : IntervalUnit)
  | cron (expression : String) (times : Cron)

namespace Schedule

inductive Error where
  | cronNotText
  | neitherGiven
  | notPositive (given : Value)
  | unknownUnit (unit : String)
  | unitNotText (given : Value)
  | tooLarge (every : Nat)
  | invalidCron (expression : String)

def Error.reason : Error → String
  | cronNotText => "`cron` must be a string"
  | neitherGiven => "time_based trigger needs `interval` or `cron`"
  | notPositive given => "interval must be a positive integer, got " ++ given.render
  | unknownUnit unit => s!"unknown interval unit `{unit}`"
  | unitNotText given => "unit must be a string, got " ++ given.render
  | tooLarge every => s!"interval {every} is too large"
  | invalidCron expression => s!"invalid cron expression `{expression}`"

/-- The longest interval in whole seconds: its milliseconds are a signed number of 64 bits. -/
def maxSeconds : Nat := (Nat.pow 2 63 - 1) / 1000

/-- A positive whole number below `2^64`, as a number or in digits. -/
def positive? : Value → Option Nat
  | .number n => n.nat?.filter (1 ≤ ·)
  | .string s => (Text.nat? UInt64.size (Text.trim s)).filter (1 ≤ ·)
  | _ => none

/-- The unit in a configuration; without one, minutes. -/
def unitOf (config : Value) : Except Error IntervalUnit :=
  match config.member? "unit" with
  | none => .ok .minutes
  | some .null => .ok .minutes
  | some (.string s) =>
    match IntervalUnit.ofText? s with
    | some unit => .ok unit
    | none => .error (.unknownUnit s)
  | some other => .error (.unitNotText other)

/-- An interval that is not too long. -/
def ofInterval (every : Nat) (unit : IntervalUnit) : Except Error Schedule :=
  if every * unit.seconds ≤ maxSeconds then .ok (.interval every unit) else .error (.tooLarge every)

/-- The schedule of a configuration: a recurring time under `cron`, else an interval. -/
def ofConfig (config : Value) : Except Error Schedule :=
  match config.member? "cron" with
  | some (.string expression) =>
    match Cron.ofText? expression with
    | some times => .ok (.cron expression times)
    | none => .error (.invalidCron expression)
  | some _ => .error .cronNotText
  | none =>
    match config.member? "interval" with
    | none => .error .neitherGiven
    | some raw =>
      match positive? raw with
      | none => .error (.notPositive raw)
      | some every => do
        let unit ← unitOf config
        ofInterval every unit

/-- When it is due again after it was done at `last`; never, if that lies beyond all instants. -/
def nextDue? (s : Schedule) (last : Time.Instant) : Option Time.Instant :=
  match s with
  | interval every unit => last.addNanos? (every * unit.seconds * Time.nanosPerSecond)
  | cron _ times => times.next? last

/-- Whether the search for the next time has a second behind `last` to start from; the last instant
has none. An interval needs no search. -/
def hasNextSecond (s : Schedule) (last : Time.Instant) : Bool :=
  match s with
  | interval _ _ => true
  | cron _ _ => (last.addNanos? Time.nanosPerSecond).isSome

end Schedule

end Automation
