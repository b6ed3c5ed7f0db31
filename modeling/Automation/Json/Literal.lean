import Automation.Json.Basic

/-!
# Number literals

A literal without fraction and exponent is an integer if it fits; every other literal is the
binary64 number that its leading digits, as many as 64 bits hold, and a power of ten multiply to.
Where the power of ten is beyond `10^308` it is applied in steps. A literal that rounds to infinity
has no value.
-/

namespace Automation.Json

/-- Digits read so far and the power of ten they are to be multiplied by. -/
structure Significand where
  digits : Nat
  exponent : Int

def digitValue (c : Char) : Nat := c.toNat - 48

/-- Whether another digit still fits into 64 bits. -/
def fits (n : Nat) (d : Nat) : Bool := n * 10 + d < UInt64.size

/-- The digits before the point: from the first that does not fit on, each only scales. -/
def Significand.ofWhole : Nat → List Char → Significand
  | n, [] => ⟨n, 0⟩
  | n, c :: cs =>
    if fits n (digitValue c) then ofWhole (n * 10 + digitValue c) cs
    else ⟨n, (c :: cs).length⟩

/-- The digits behind the point: from the first that does not fit on, all are dropped. -/
def Significand.addFraction (s : Significand) : List Char → Significand
  | [] => s
  | c :: cs =>
    if fits s.digits (digitValue c) then
      addFraction ⟨s.digits * 10 + digitValue c, s.exponent - 1⟩ cs
    else s

private def tenTo (n : Nat) : Float := Float.ofScientific 1 false n

/-- `x · 10^e`, in steps of `10^308` where the exponent is larger. -/
def scaleByTen : Nat → Float → Int → Option Float
  | 0, _, _ => none
  | fuel + 1, x, e =>
    if e.natAbs ≤ 308 then
      if 0 ≤ e then
        let y := x * tenTo e.toNat
        if y.isInf then none else some y
      else some (x / tenTo e.natAbs)
    else if x == 0.0 then some x
    else if 0 ≤ e then none
    else scaleByTen fuel (x / tenTo 308) (e + 308)

structure Literal where
  negative : Bool
  whole : List Char
  fraction : Option (List Char)
  /-- Sign and digits of the exponent. -/
  exponent : Option (Bool × List Char)

private def natOfDigits (cs : List Char) : Nat := cs.foldl (fun n c => n * 10 + digitValue c) 0

private def withSign (negative : Bool) (x : Float) : Number :=
  .float (if negative then -x else x).toBits

/-- The number that the literal denotes, if it is in range. -/
def Literal.number? (l : Literal) : Option Number :=
  let whole := Significand.ofWhole 0 l.whole
  match l.fraction, l.exponent with
  | none, none =>
    if whole.exponent == 0 then
      if !l.negative then some (.int whole.digits)
      else if whole.digits == 0 then some (withSign true 0.0)
      else if whole.digits ≤ Nat.pow 2 63 then some (.int (-(whole.digits : Int)))
      else some (withSign true (Float.ofNat whole.digits))
    else (scaleByTen 8 (Float.ofNat whole.digits) whole.exponent).map (withSign l.negative)
  | fraction, exponent =>
    let s := whole.addFraction (fraction.getD [])
    match exponent with
    | none => (scaleByTen 8 (Float.ofNat s.digits) s.exponent).map (withSign l.negative)
    | some (down, digits) =>
      let e := natOfDigits digits
      -- an exponent beyond 32 bits decides alone
      let bound : Int := Nat.pow 2 31
      if e ≥ bound then
        if s.digits != 0 && !down then none else some (withSign l.negative 0.0)
      else
        let total := if down then s.exponent - e else s.exponent + e
        let clamped := if total ≥ bound then bound - 1 else if total < -bound then -bound else total
        (scaleByTen 16 (Float.ofNat s.digits) clamped).map (withSign l.negative)

def digitsThen (cs : List Char) : List Char × List Char :=
  (cs.takeWhile Char.isDigit, cs.dropWhile Char.isDigit)

/-- Takes a literal apart: an optional minus sign, digits without a leading zero unless it is the
only one, an optional fraction and an optional exponent. -/
def Literal.ofChars? (cs : List Char) : Option Literal := do
  let (negative, cs) := match cs with
    | '-' :: rest => (true, rest)
    | rest => (false, rest)
  let (whole, cs) := digitsThen cs
  match whole with
  | [] => none
  | '0' :: _ :: _ => none
  | _ => pure ()
  let (fraction, cs) ← match cs with
    | '.' :: rest =>
      let (ds, rest) := digitsThen rest
      if ds.isEmpty then none else some (some ds, rest)
    | rest => some (none, rest)
  let exponentOf (cs : List Char) : Option (Option (Bool × List Char)) :=
    let (down, cs) := match cs with
      | '+' :: rest => (false, rest)
      | '-' :: rest => (true, rest)
      | rest => (false, rest)
    let (ds, rest) := digitsThen cs
    if ds.isEmpty || !rest.isEmpty then none else some (some (down, ds))
  let exponent ← match cs with
    | [] => some none
    | 'e' :: rest => exponentOf rest
    | 'E' :: rest => exponentOf rest
    | _ => none
  return { negative, whole, fraction, exponent }

end Automation.Json
