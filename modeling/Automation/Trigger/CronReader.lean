import Automation.Text.Basic
import Automation.Trigger.Cron

/-!
# The text of recurring times

Six or seven fields: seconds, minutes, hours, days of the month, months, days of the week, and
years, which may be left out. A field is a list of parts between commas. A part is `*`, a number, a
range of numbers, a name or a range of names; all but a name alone may have a step behind a slash,
and a number with a step means everything from that number on. `?` stands for `*` in the two fields
for days. Spaces and tabs may surround a field, a number and a name; fields that need no blank
between them may stand side by side. In place of the fields there may be one of five words such as
`@daily`.
-/

namespace Automation.Cron

/-- What a part of a field stands for, apart from its step. -/
inductive Span where
  | all
  | point (n : Nat)
  | range (low high : Nat)
  | named (name : String)
  | namedRange (low high : String)
deriving DecidableEq, Repr

structure Part where
  span : Span
  step : Option Nat := none
deriving DecidableEq, Repr

/-- What a field may hold: numbers between bounds, some of which have names. -/
structure Field where
  low : Nat
  high : Nat
  names : List (List String) := []
  /-- Whether `?` may stand for everything. -/
  takesAny : Bool := false

namespace Field

def seconds : Field := { low := 0, high := 59 }
def minutes : Field := { low := 0, high := 59 }
def hours : Field := { low := 0, high := 23 }
def days : Field := { low := 1, high := 31, takesAny := true }

def months : Field where
  low := 1
  high := 12
  names := [["jan", "january"], ["feb", "february"], ["mar", "march"], ["apr", "april"], ["may"],
    ["jun", "june"], ["jul", "july"], ["aug", "august"], ["sep", "september"], ["oct", "october"],
    ["nov", "november"], ["dec", "december"]]

def weekdays : Field where
  low := 1
  high := 7
  names := [["sun", "sunday"], ["mon", "monday"], ["tue", "tues", "tuesday"], ["wed", "wednesday"],
    ["thu", "thurs", "thursday"], ["fri", "friday"], ["sat", "saturday"]]
  takesAny := true

def years : Field := { low := 1970, high := lastYear }

def between (low high : Nat) : List Nat := List.range' low (high + 1 - low)

def all (f : Field) : List Nat := between f.low f.high

/-- The number, if the field has it. -/
def point? (f : Field) (n : Nat) : Option Nat := if f.low ≤ n && n ≤ f.high then some n else none

/-- The number with the name, in any case. -/
def named? (f : Field) (name : String) : Option Nat :=
  (f.names.findIdx? (·.contains (String.ofList (name.toList.map Char.toLower)))).map (· + f.low)

/-- The numbers between two, which must not be the wrong way round. -/
def range? (low high : Nat) : Option (List Nat) :=
  if low ≤ high then some (between low high) else none

def span? (f : Field) : Span → Option (List Nat)
  | .all => some f.all
  | .point n => do return [← f.point? n]
  | .range low high => do range? (← f.point? low) (← f.point? high)
  | .named name => do return [← f.named? name]
  | .namedRange low high => do range? (← f.named? low) (← f.named? high)

/-- Every `step`-th number, from the first one on. -/
def everyNth (step : Nat) (ns : List Nat) : List Nat :=
  ((List.range ns.length).zip ns).filterMap fun (i, n) => if i % step == 0 then some n else none

def part? (f : Field) (p : Part) : Option (List Nat) :=
  match p.step with
  | none => f.span? p.span
  | some step =>
    if step < 1 || f.high < step then none
    else
      let base := match p.span with
        | .point n => (f.point? n).map fun n => between n f.high
        | span => f.span? span
      base.map (everyNth step)

def values? (f : Field) (parts : List Part) : Option (List Nat) := do
  let found := (← parts.mapM f.part?).flatten
  return f.all.filter found.contains

end Field

/-! ## Reading -/

/-- A reader gives a value and the characters behind it. -/
abbrev Scan (α : Type) := List Char → Option (α × List Char)

private def isSpace (c : Char) : Bool := c == ' ' || c == '\t'

private def skipSpaces (cs : List Char) : List Char := cs.dropWhile isSpace

private def scanRun (p : Char → Bool) : Scan (List Char) := fun cs =>
  let cs := skipSpaces cs
  let run := cs.takeWhile p
  if run.isEmpty then none else some (run, skipSpaces (cs.drop run.length))

private def scanNumber : Scan Nat := fun cs => do
  let (ds, rest) ← scanRun Char.isDigit cs
  let n := Text.natOfDigits ds
  if n < UInt32.size then some (n, rest) else none

private def scanName : Scan String := fun cs =>
  (scanRun Char.isAlpha cs).map fun (name, rest) => (String.ofList name, rest)

private def scanMark (mark : Char) : Scan Unit
  | [] => none
  | c :: rest => if c == mark then some ((), rest) else none

private def scanPair {α : Type} (one : Scan α) : Scan (α × α) := fun cs => do
  let (a, cs) ← one cs
  let ((), cs) ← scanMark '-' cs
  let (b, cs) ← one cs
  return ((a, b), cs)

private def scanSpan (takesAny : Bool) : Scan Span := fun cs =>
  match cs with
  | '*' :: rest => some (.all, rest)
  | '?' :: rest => if takesAny then some (.all, rest) else none
  | _ =>
    ((scanPair scanNumber cs).map fun ((a, b), rest) => (.range a b, rest)) <|>
    ((scanNumber cs).map fun (n, rest) => (.point n, rest)) <|>
    ((scanPair scanName cs).map fun ((a, b), rest) => (.namedRange a b, rest))

private def scanPart (takesAny : Bool) : Scan Part := fun cs =>
  match scanSpan takesAny cs with
  | some (span, rest) =>
    match rest with
    | '/' :: more =>
      match scanNumber more with
      | some (step, more) => some ({ span, step := some step }, more)
      | none => some ({ span }, rest)
    | _ => some ({ span }, rest)
  | none => (scanName cs).map fun (name, rest) => ({ span := .named name }, rest)

/-- Parts that follow a comma each; a comma without a part behind it is left. -/
private def scanMore (takesAny : Bool) : (fuel : Nat) → List Char → List Part × List Char
  | 0, cs => ([], cs)
  | fuel + 1, cs =>
    match cs with
    | ',' :: rest =>
      match scanPart takesAny rest with
      | some (p, rest) =>
        let (ps, rest) := scanMore takesAny fuel rest
        (p :: ps, rest)
      | none => ([], cs)
    | _ => ([], cs)

/-- A field with its numbers. -/
private def scanField (f : Field) : Scan (List Nat) := fun cs => do
  let (first, cs) ← scanPart f.takesAny (skipSpaces cs)
  let (more, cs) := scanMore f.takesAny cs.length cs
  return (← f.values? (first :: more), skipSpaces cs)

private def scanFields : Scan Cron := fun cs => do
  let (seconds, cs) ← scanField .seconds cs
  let (minutes, cs) ← scanField .minutes cs
  let (hours, cs) ← scanField .hours cs
  let (days, cs) ← scanField .days cs
  let (months, cs) ← scanField .months cs
  let (weekdays, cs) ← scanField .weekdays cs
  let (years, cs) := (scanField .years cs).getD (Field.years.all, cs)
  return ({ seconds, minutes, hours, days, months, weekdays, years }, cs)

def hourly : Cron where
  seconds := [0]
  minutes := [0]
  hours := Field.hours.all
  days := Field.days.all
  months := Field.months.all
  weekdays := Field.weekdays.all
  years := Field.years.all

/-- The words that stand for a whole expression. -/
def shorthands : List (String × Cron) :=
  let daily := { hourly with hours := [0] }
  [("@yearly", { daily with days := [1], months := [1] }),
   ("@monthly", { daily with days := [1] }),
   ("@weekly", { daily with weekdays := [1] }),
   ("@daily", daily),
   ("@hourly", hourly)]

/-- Reads an expression. One of five words gets a field of zero seconds in front. -/
def ofText? (text : String) : Option Cron :=
  let full := if (Text.words text).length == 5 then "0 " ++ text else text
  let cs := full.toList
  match shorthands.lookup (String.ofList (Text.stripChars isSpace cs)) with
  | some c => some c
  | none =>
    match scanFields cs with
    | some (c, []) => some c
    | _ => none

end Automation.Cron
