import Automation.Time.Instant

/-!
# Recurring times

A recurring time is given by the seconds, minutes, hours, days of the month, months, days of the
week and years in which it falls; it recurs at every second that lies in all seven. The days of the
week are counted from Sunday, which is 1, and years run from 1970 to 2100, so that the search for
the next such second ends.
-/

namespace Automation

/-- The values of the seven fields, each in increasing order. -/
structure Cron where
  seconds : List Nat
  minutes : List Nat
  hours : List Nat
  days : List Nat
  months : List Nat
  weekdays : List Nat
  years : List Nat
deriving DecidableEq, Repr

namespace Cron

open Time

def lastYear : Nat := 2100

def onDate (c : Cron) (d : Date) : Bool :=
  0 ≤ d.year && c.years.contains d.year.toNat && c.months.contains d.month &&
    c.days.contains d.day && c.weekdays.contains d.weekday

/-- The first second of the day at or after `bound` at which the time recurs. -/
def secondOfDay? (c : Cron) (bound : Nat) : Option Nat :=
  c.hours.findSome? fun h => c.minutes.findSome? fun m => c.seconds.findSome? fun s =>
    let t := h * 3600 + m * 60 + s
    if bound ≤ t then some t else none

/-- The first recurrence at or after the second `bound` of a day, within that day and the `left - 1`
following ones. -/
def search (c : Cron) : (left : Nat) → (day : Int) → (bound : Nat) → Option Instant
  | 0, _, _ => none
  | left + 1, day, bound =>
    let found := if c.onDate (Date.ofDays day) then c.secondOfDay? bound else none
    match found with
    | some t => some ⟨day * 86400 + t, 0⟩
    | none => search c left (day + 1) 0

/-- The first recurrence behind an instant. Before the year 0 there is no next one. -/
def next? (c : Cron) (after : Instant) : Option Instant :=
  let start := after.seconds + 1
  let day := start / 86400
  if (Date.ofDays day).year < 0 then none
  else
    -- nothing recurs before 1970
    let first : Int := max day 0
    let last := (Date.mk lastYear 12 31).toDays
    c.search (last - first + 1).toNat first (if day < 0 then 0 else (start % 86400).toNat)

end Cron

end Automation
