import Automation.Decimal
import Automation.Text.Basic

/-!
# Reading decimal numbers

The binary64 number nearest to a decimal one. A text may be a number with a sign, a point and an
exponent, each of which may be left out, an infinity or a NaN.
-/

namespace Automation.Decimal

/-- The binary64 number nearest to `digits · 10^exponent`. -/
def nearest (digits : Nat) (exponent : Int) : Float :=
  let size : Int := (toString digits).length + exponent
  if digits == 0 || size < -400 then 0.0
  else if size > 400 then 1.0 / 0.0
  else if 0 ≤ exponent then Float.ofScientific digits false exponent.toNat
  else Float.ofScientific digits true exponent.natAbs

/-- A sign, if there is one, and what is behind it; the sign is true for a minus. -/
def signAnd (cs : List Char) : Bool × List Char :=
  match cs with
  | '-' :: rest => (true, rest)
  | '+' :: rest => (false, rest)
  | rest => (false, rest)

/-- An exponent: an optional sign and digits. -/
private def exponent? (cs : List Char) : Option Int :=
  let (down, ds) := signAnd cs
  if ds.isEmpty || !ds.all Char.isDigit then none
  else
    let n : Int := Text.natOfDigits ds
    some (if down then -n else n)

/-- Reads a number; the words for infinities and NaN may be in any case. -/
def ofText? (s : String) : Option Float := do
  let (negative, rest) := signAnd s.toList
  let signed (x : Float) : Float := if negative then -x else x
  let word := String.ofList (rest.map Char.toLower)
  if word == "inf" || word == "infinity" then return signed (1.0 / 0.0)
  if word == "nan" then return signed (0.0 / 0.0)
  let (mantissa, exponent) ← match Text.cutWhere (fun c => c == 'e' || c == 'E') rest with
    | none => some (rest, (0 : Int))
    | some (m, e) => (exponent? e).map fun n => (m, n)
  let (whole, fraction) := (Text.cutWhere (· == '.') mantissa).getD (mantissa, [])
  let digits := whole ++ fraction
  if digits.isEmpty || !digits.all Char.isDigit then none
  return signed (nearest (Text.natOfDigits digits) (exponent - fraction.length))

/-- So many units of `10^-places` that the number comes to, rounded to the nearest whole one, a half
to the even neighbour; none for an infinity, a NaN or a negative number. -/
def units? (places : Nat) (x : Float) : Option Nat := do
  let b ← Binary.ofBits? x.toBits
  if b.negative && b.significand != 0 then none
  let (up, down) := powerParts 2 b.exponent
  return roundHalfEven (b.significand * up * Nat.pow 10 places) down

end Automation.Decimal
