/-!
# Decimal text of binary numbers

A finite binary64 number is m · 2^q. Its shortest text uses the fewest digits that still read back
as the same number, and among those the nearest; this is decided in exact integer arithmetic on m
and q. Three layouts are built on the digits: with an exponent outside a range, positional at any
size, and with a fixed number of places.
-/

namespace Automation.Decimal

/-- The sign, significand and binary exponent of a finite number; `none` for an infinity or NaN. -/
structure Binary where
  negative : Bool
  significand : Nat
  exponent : Int
  /-- The gap to the next smaller number is half the gap to the next larger one. -/
  atBoundary : Bool

/-- The parts of the number with this bit pattern. -/
def Binary.ofBits? (bits : UInt64) : Option Binary :=
  let n : Nat := bits.toNat
  let negative := n / Nat.pow 2 63 == 1
  let biased : Nat := n / Nat.pow 2 52 % Nat.pow 2 11
  let fraction : Nat := n % Nat.pow 2 52
  if biased == 2047 then none
  else if biased == 0 then some ⟨negative, fraction, -1074, false⟩
  else some ⟨negative, fraction + Nat.pow 2 52, (biased : Int) - 1075, fraction == 0 && biased > 1⟩

/-- Digits and a power of ten: the number `digits · 10^exponent`. -/
structure Scaled where
  digits : Nat
  exponent : Int
deriving DecidableEq, Repr

def powerParts (base : Nat) (e : Int) : Nat × Nat :=
  if 0 ≤ e then (Nat.pow base e.toNat, 1) else (1, Nat.pow base (-e).toNat)

/-- Searches the grids of multiples of `10^e`, from coarse to fine, for a point in the rounding
interval; of two such points the nearer is taken, and the even one if both are as near. All
quantities are in units of `2^(q-2)`: the number is `4m`, and its interval reaches `below` down and
2 up, ends included exactly when m is even. -/
def searchGrid (m : Nat) (q : Int) (below : Nat) : Nat → Int → Scaled
  | 0, e => ⟨m, e⟩
  | fuel + 1, e =>
    let (tenUp, tenDown) := powerParts 10 e
    let (twoUp, twoDown) := powerParts 2 (q - 2)
    -- one grid step is `grid`, one unit is `unit`, over a common denominator
    let grid := tenUp * twoDown
    let unit := twoUp * tenDown
    let value := 4 * m * unit
    let low := value - below * unit
    let high := value + 2 * unit
    let inside (x : Nat) : Bool := if m % 2 == 0 then low ≤ x && x ≤ high else low < x && x < high
    let floor := value / grid
    let under := floor * grid
    let above := under + grid
    let underFits := floor > 0 && inside under
    let overFits := inside above
    let underNearer := value - under < above - value ||
      (value - under == above - value && floor % 2 == 0)
    if underFits && (!overFits || underNearer) then ⟨floor, e⟩
    else if overFits then ⟨floor + 1, e⟩
    else searchGrid m q below fuel (e - 1)

/-- The fewest digits that read back as `m · 2^q`. -/
def Binary.shortest (b : Binary) : Scaled :=
  if b.significand == 0 then ⟨0, 0⟩
  else
    let bound := (b.exponent + (Nat.log2 b.significand + 1 : Nat)) * 30103 / 100000 + 2
    searchGrid b.significand b.exponent (if b.atBoundary then 1 else 2) 40 bound

def digitChars (n : Nat) : List Char := (Nat.repr n).toList

private def zeros (n : Nat) : List Char := List.replicate n '0'

/-- Digits with the decimal point behind the first `point` of them, padded with zeros on the side
where it lies outside; a whole number ends in `tail`. -/
def positional (digits : List Char) (point : Int) (tail : List Char) : List Char :=
  if point ≤ 0 then '0' :: '.' :: zeros (-point).toNat ++ digits
  else if digits.length ≤ point.toNat then
    digits ++ zeros (point.toNat - digits.length) ++ tail
  else digits.take point.toNat ++ '.' :: digits.drop point.toNat

/-- Scientific form: one digit, the others behind a point, and a signed exponent. -/
def scientific (digits : List Char) (point : Int) : List Char :=
  let exponent := point - 1
  let sign := if exponent < 0 then '-' else '+'
  let mantissa := match digits with
    | d :: r :: rest => d :: '.' :: r :: rest
    | ds => ds
  mantissa ++ 'e' :: sign :: digitChars exponent.natAbs

private def signed (negative : Bool) (text : List Char) : String :=
  String.ofList (if negative then '-' :: text else text)

/-- Shortest text, positional from `1e-5` up to below `1e16` with `.0` on whole numbers, with an
exponent elsewhere. An infinity or NaN has none. -/
def render? (bits : UInt64) : Option String := do
  let b ← Binary.ofBits? bits
  if b.significand == 0 then return signed b.negative "0.0".toList
  let s := b.shortest
  let digits := digitChars s.digits
  let point : Int := digits.length + s.exponent
  return signed b.negative <|
    if -5 < point && point ≤ 16 then positional digits point ".0".toList
    else scientific digits point

/-- The text of a bit pattern that is no number: not a number, or an infinity with its sign. -/
def unbounded (bits : UInt64) : String :=
  if bits.toNat % Nat.pow 2 52 != 0 then "NaN"
  else signed (bits.toNat / Nat.pow 2 63 == 1) "inf".toList

/-- Shortest text without an exponent; whole numbers have no point. -/
def renderPlain (bits : UInt64) : String :=
  match Binary.ofBits? bits with
  | none => unbounded bits
  | some b =>
    if b.significand == 0 then signed b.negative ['0']
    else
      let s := b.shortest
      let digits := digitChars s.digits
      signed b.negative (positional digits (digits.length + s.exponent) [])

/-- The quotient rounded to the nearest whole number, a half to the even neighbour. -/
def roundHalfEven (num den : Nat) : Nat :=
  let q := num / den
  let twice := 2 * (num % den)
  if twice < den || (twice == den && q % 2 == 0) then q else q + 1

/-- The exact number rounded to `places` decimal places, a half to the even neighbour. -/
def renderFixed (places : Nat) (bits : UInt64) : String :=
  match Binary.ofBits? bits with
  | none => unbounded bits
  | some b =>
    let (up, down) := powerParts 2 b.exponent
    let scaled := roundHalfEven (b.significand * up * Nat.pow 10 places) down
    let digits := digitChars scaled
    let padded := zeros (places + 1 - digits.length) ++ digits
    let whole := padded.take (padded.length - places)
    let rest := padded.drop (padded.length - places)
    signed b.negative (if places == 0 then whole else whole ++ '.' :: rest)

/-- A whole-number key in the total order of bit patterns: negative numbers below positive ones,
`-0.0` below `0.0`, NaNs outermost. -/
def orderKey (bits : UInt64) : Int :=
  let n : Nat := bits.toNat
  if n < Nat.pow 2 63 then n else Nat.pow 2 63 - 1 - (n : Int)

/-- Different bit patterns have different keys. -/
theorem orderKey_inj {a b : UInt64} : orderKey a = orderKey b ↔ a = b := by
  refine ⟨fun h => UInt64.toNat_inj.mp ?_, congrArg orderKey⟩
  simp only [orderKey, Nat.pow_eq] at h
  omega

end Automation.Decimal
