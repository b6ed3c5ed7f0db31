import Automation.Text.Basic
import Automation.Time.Civil

/-!
# Instants

Points in time, in seconds since 1970-01-01T00:00:00Z and nanoseconds within the second; within a
leap second the nanoseconds go on counting past the billion. Instants lie in the years -262143 to
262142. They are written in RFC 3339 with `Z`, with no, three, six or nine digits of a second; a
year outside four digits carries its sign.
-/

namespace Automation.Time

structure Instant where
  seconds : Int
  nanos : Nat
deriving DecidableEq, Repr

def nanosPerSecond : Nat := 1000000000

namespace Instant

def minSeconds : Int := (Date.mk (-262143) 1 1).toDays * 86400

def maxSeconds : Int := (Date.mk 262142 12 31).toDays * 86400 + 86399

/-- The nanoseconds since 1970; a leap second counts as the second before it. -/
def toNanos (t : Instant) : Int :=
  t.seconds * nanosPerSecond +
    (if t.nanos < nanosPerSecond then t.nanos else t.nanos - nanosPerSecond : Nat)

def ofNanos (n : Int) : Instant := ⟨n / nanosPerSecond, (n % nanosPerSecond).toNat⟩

/-- The instant, if it lies in the supported years. -/
def inRange? (t : Instant) : Option Instant :=
  if minSeconds ≤ t.seconds && t.seconds ≤ maxSeconds then some t else none

/-- The instant so many nanoseconds later, if it lies in the supported years. -/
def addNanos? (t : Instant) (n : Int) : Option Instant := (ofNanos (t.toNanos + n)).inRange?

def le (a b : Instant) : Bool :=
  a.seconds < b.seconds || (a.seconds == b.seconds && a.nanos ≤ b.nanos)

def lt (a b : Instant) : Bool := !le b a

/-- Whole milliseconds since 1970. -/
def toMillis (t : Instant) : Int := t.seconds * 1000 + (t.nanos / 1000000 : Nat)

def ofMillis (ms : Int) : Instant := ⟨ms / 1000, ((ms % 1000).toNat) * 1000000⟩

/-- The instant of a millisecond count, if it lies in the supported years. -/
def ofMillis? (ms : Int) : Option Instant := (ofMillis ms).inRange?

def date (t : Instant) : Date := Date.ofDays (t.seconds / 86400)

def secondOfDay (t : Instant) : Nat := (t.seconds % 86400).toNat

/-- The instant of a date and a time of day in hours, minutes and seconds. -/
def ofCivil (d : Date) (hour minute second : Nat) : Instant :=
  ⟨d.toDays * 86400 + (hour * 3600 + minute * 60 + second : Nat), 0⟩

/-- A number in decimal digits, padded with zeros. -/
def padded (width n : Nat) : String :=
  let digits := toString n
  String.ofList (List.replicate (width - digits.length) '0') ++ digits

/-- A year in four digits, with a sign where it needs more or is negative. -/
def renderYear (year : Int) : String :=
  if 0 ≤ year && year ≤ 9999 then padded 4 year.toNat
  else (if year < 0 then "-" else "+") ++ padded 4 year.natAbs

/-- The digits behind the seconds, as few groups of three as show them all. -/
def renderFraction (nanos : Nat) : String :=
  if nanos == 0 then ""
  else if nanos % 1000000 == 0 then "." ++ padded 3 (nanos / 1000000)
  else if nanos % 1000 == 0 then "." ++ padded 6 (nanos / 1000)
  else "." ++ padded 9 nanos

def render (t : Instant) : String :=
  let d := t.date
  let s := t.secondOfDay
  let leap := nanosPerSecond ≤ t.nanos
  let second := s % 60 + (if leap then 1 else 0)
  let fraction := if leap then t.nanos - nanosPerSecond else t.nanos
  renderYear d.year ++ "-" ++ padded 2 d.month ++ "-" ++ padded 2 d.day ++ "T" ++
    padded 2 (s / 3600) ++ ":" ++ padded 2 (s / 60 % 60) ++ ":" ++ padded 2 second ++
    renderFraction fraction ++ "Z"

end Instant

/-! ## Reading -/

private def skipBlanks (cs : List Char) : List Char := cs.dropWhile Text.isBlank

/-- One to `limit` digits. -/
private def number? (limit : Option Nat) (cs : List Char) : Option (Nat × List Char) :=
  let all := cs.takeWhile Char.isDigit
  let ds := match limit with
    | some n => all.take n
    | none => all
  if ds.isEmpty || Text.natOfDigits ds ≥ Nat.pow 2 63 then none
  else some (Text.natOfDigits ds, cs.drop ds.length)

/-- A field of one or two digits between the bounds, behind blanks. -/
private def field? (low high : Nat) (cs : List Char) : Option (Nat × List Char) := do
  let (n, rest) ← number? (some 2) (skipBlanks cs)
  if low ≤ n && n ≤ high then some (n, rest) else none

private def mark? (c : Char) (cs : List Char) : Option (List Char) :=
  match skipBlanks cs with
  | d :: rest => if c == d then some rest else none
  | [] => none

private def year? (cs : List Char) : Option (Int × List Char) :=
  match skipBlanks cs with
  | '-' :: rest => (number? none rest).map fun (n, r) => (-(n : Int), r)
  | '+' :: rest => (number? none rest).map fun (n, r) => ((n : Int), r)
  | rest => (number? (some 4) rest).map fun (n, r) => ((n : Int), r)

/-- Digits of a second behind a point; the tenth and later ones are dropped. -/
private def fraction? : List Char → Option (Nat × List Char)
  | '.' :: rest =>
    let ds := rest.takeWhile Char.isDigit
    if ds.isEmpty then none
    else
      let kept := ds.take 9
      some (Text.natOfDigits kept * Nat.pow 10 (9 - kept.length), rest.drop ds.length)
  | cs => some (0, cs)

/-- Two digits. -/
private def pair? : List Char → Option (Nat × List Char)
  | a :: b :: rest =>
    if a.isDigit && b.isDigit then some (Text.natOfDigits [a, b], rest) else none
  | _ => none

/-- The distance from UTC in seconds: `Z`, or a sign, two digits of hours, colons or blanks, and two
digits of minutes. -/
private def offset? (cs : List Char) : Option (Int × List Char) :=
  match cs with
  | 'Z' :: rest => some (0, rest)
  | 'z' :: rest => some (0, rest)
  | sign :: rest => do
    let negative ←
      if sign == '+' then some false
      else if sign == '-' || sign.toNat == 0x2212 then some true
      else none
    let (hours, rest) ← pair? rest
    let (minutes, rest) ← pair? (rest.dropWhile fun c => c == ':' || Text.isBlank c)
    if minutes ≥ 60 then none
    let size : Int := (hours * 3600 + minutes * 60 : Nat)
    return (if negative then -size else size, rest)
  | [] => none

private def zone? (cs : List Char) : Option (Int × List Char) :=
  match cs with
  | a :: b :: c :: rest =>
    if a.toUpper == 'U' && b.toUpper == 'T' && c.toUpper == 'C' then some (0, rest) else offset? cs
  | _ => offset? cs

/-- Reads an RFC 3339 date and time. Blanks may stand before each field and around the zone, a blank
may stand for the `T`, and fields may have fewer digits than they are written with. -/
def Instant.ofText? (text : String) : Option Instant := do
  let (year, cs) ← year? text.toList
  let cs ← mark? '-' cs
  let (month, cs) ← field? 1 12 cs
  let cs ← mark? '-' cs
  let (day, cs) ← field? 1 31 cs
  let cs ← match cs with
    | 'T' :: rest => some rest
    | 't' :: rest => some rest
    | ' ' :: rest => some rest
    | _ => none
  let (hour, cs) ← field? 0 23 cs
  let cs ← mark? ':' cs
  let (minute, cs) ← field? 0 59 cs
  let cs ← mark? ':' cs
  let (second, cs) ← field? 0 60 cs
  let (fraction, cs) ← fraction? cs
  let (offset, cs) ← zone? (skipBlanks cs)
  if !(skipBlanks cs).isEmpty then none
  if offset ≤ -86400 || 86400 ≤ offset then none
  let date : Date := ⟨year, month, day⟩
  if !date.isValid then none
  let leap := second == 60
  let written := Instant.ofCivil date hour minute (if leap then 59 else second)
  let _ ← written.inRange?
  Instant.inRange? ⟨written.seconds - offset, fraction + (if leap then nanosPerSecond else 0)⟩

end Automation.Time
