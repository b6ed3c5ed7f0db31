import Automation.Decimal.Reader
import Automation.Json.Source
import Automation.Time.Instant

/-!
# TOML numbers and dates

Integers are decimal, hexadecimal, octal or binary and fit into 64 bits with sign; underscores may
stand between digits. Other numbers are rounded to the nearest binary64 number and must not be
larger than all of them. Dates and times become an object with their text under a reserved name.
-/

namespace Automation.Toml

open Decimal (nearest signAnd)
open Json (Source Number)

/-- Digits with underscores between them; `isDigit` tells which digits. -/
def digits? (isDigit : Char → Bool) : List Char → Option (List Char)
  | [] => none
  | [c] => if isDigit c then some [c] else none
  | c :: '_' :: rest => if isDigit c then (digits? isDigit rest).map (c :: ·) else none
  | c :: rest => if isDigit c then (digits? isDigit rest).map (c :: ·) else none

private def digitValue (c : Char) : Nat :=
  if c.isDigit then c.toNat - 48 else if c.isUpper then c.toNat - 55 else c.toNat - 87

private def natOf (base : Nat) (ds : List Char) : Nat :=
  ds.foldl (fun n c => n * base + digitValue c) 0

private def isHex (c : Char) : Bool :=
  c.isDigit || ('a' ≤ c && c ≤ 'f') || ('A' ≤ c && c ≤ 'F')

private def withBase? (base : Nat) (isDigit : Char → Bool) (cs : List Char) : Option Int := do
  let n := natOf base (← digits? isDigit cs)
  if n < Nat.pow 2 63 then some n else none

private def decimalDigits? (cs : List Char) : Option (List Char) := do
  let ds ← digits? Char.isDigit cs
  match ds with
  | '0' :: _ :: _ => none
  | _ => some ds

def integer? (cs : List Char) : Option Int :=
  match cs with
  | '0' :: 'x' :: rest => withBase? 16 isHex rest
  | '0' :: 'o' :: rest => withBase? 8 (fun c => '0' ≤ c && c ≤ '7') rest
  | '0' :: 'b' :: rest => withBase? 2 (fun c => c == '0' || c == '1') rest
  | _ => do
    let (negative, rest) := signAnd cs
    let n := natOf 10 (← decimalDigits? rest)
    if negative then (if n ≤ Nat.pow 2 63 then some (-(n : Int)) else none)
    else (if n < Nat.pow 2 63 then some (n : Int) else none)

private def isExponentMark (c : Char) : Bool := c == 'e' || c == 'E'

/-- Reads a number with a fraction, an exponent or both, an infinity or a NaN. -/
def float? (cs : List Char) : Option Float := do
  let (negative, rest) := signAnd cs
  let signed (x : Float) : Float := if negative then -x else x
  if rest == "inf".toList then return signed (1.0 / 0.0)
  if rest == "nan".toList then return signed (0.0 / 0.0)
  let (mantissa, exponent) ← match Text.cutWhere isExponentMark rest with
    | none => some (rest, (0 : Int))
    | some (m, e) => do
      let (down, ds) := signAnd e
      let n := natOf 10 (← digits? Char.isDigit ds)
      some (m, if down then -(n : Int) else n)
  let (whole, fraction) ← match Text.cutWhere (· == '.') mantissa with
    | none => some (mantissa, [])
    | some (w, f) => do some (w, ← digits? Char.isDigit f)
  let whole ← decimalDigits? whole
  let x := signed (nearest (natOf 10 (whole ++ fraction)) (exponent - fraction.length))
  if x.isInf && x > 0.0 then none else return x

/-! ## Dates and times -/

private def pair? (low high : Nat) : List Char → Option (Nat × List Char)
  | a :: b :: rest =>
    let n := natOf 10 [a, b]
    if a.isDigit && b.isDigit && low ≤ n && n ≤ high then some (n, rest) else none
  | _ => none

private def expect? (c : Char) : List Char → Option (List Char)
  | d :: rest => if c == d then some rest else none
  | [] => none

private def date? (cs : List Char) : Option (String × List Char) := do
  let year := cs.take 4
  if year.length != 4 || !year.all Char.isDigit then none
  let cs ← expect? '-' (cs.drop 4)
  let (month, cs) ← pair? 1 12 cs
  let cs ← expect? '-' cs
  let (day, cs) ← pair? 1 31 cs
  if day > Time.daysInMonth (natOf 10 year : Nat) month then none
  let two := Time.Instant.padded 2
  return (String.ofList year ++ "-" ++ two month ++ "-" ++ two day, cs)

private def time? (cs : List Char) : Option (String × List Char) := do
  let (hour, cs) ← pair? 0 23 cs
  let cs ← expect? ':' cs
  let (minute, cs) ← pair? 0 59 cs
  let cs ← expect? ':' cs
  let (second, cs) ← pair? 0 60 cs
  let two := Time.Instant.padded 2
  let base := two hour ++ ":" ++ two minute ++ ":" ++ two second
  match cs with
  | '.' :: rest =>
    let ds := rest.takeWhile Char.isDigit
    if ds.isEmpty then none
    let kept := Text.dropTrailing (· == '0') (ds.take 9)
    let fraction := if kept.isEmpty then "" else "." ++ String.ofList kept
    return (base ++ fraction, rest.drop ds.length)
  | _ => return (base, cs)

private def zone? (cs : List Char) : Option (String × List Char) :=
  match cs with
  | 'Z' :: rest => some ("Z", rest)
  | 'z' :: rest => some ("Z", rest)
  | sign :: rest => do
    if sign != '+' && sign != '-' then none
    let (hour, rest) ← pair? 0 23 rest
    let rest ← expect? ':' rest
    let (minute, rest) ← pair? 0 59 rest
    let two := Time.Instant.padded 2
    return (String.singleton sign ++ two hour ++ ":" ++ two minute, rest)
  | [] => none

/-- The name under which the text of a date or time stands. -/
def dateName : String := "$__toml_private_datetime"

/-- Reads a date, a time of day, or both with or without a distance from UTC, from the beginning of
the characters. -/
def dateTime? (cs : List Char) : Option (Source × List Char) :=
  let wrap (text : String) : Source := .object [(some dateName, .string (some text))]
  match date? cs with
  | none => (time? cs).map fun (text, rest) => (wrap text, rest)
  | some (day, rest) =>
    let timed : Option (String × List Char) := do
      match rest with
      | c :: more =>
        if c != 'T' && c != 't' && c != ' ' then none
        time? more
      | [] => none
    match timed with
    | none => some (wrap day, rest)
    | some (clock, rest) =>
      match zone? rest with
      | some (zone, rest) => some (wrap (day ++ "T" ++ clock ++ zone), rest)
      | none => some (wrap (day ++ "T" ++ clock), rest)

def number? (cs : List Char) : Option Source :=
  match integer? cs with
  | some i => some (.number (some (.int i)))
  | none => (float? cs).map fun x => .number (some (.float x.toBits))

end Automation.Toml
