/-!
# Identifiers

128-bit identifiers in their usual form of 32 hexadecimal digits in five groups. Generated ones
increase, so that their order is the order of creation.
-/

namespace Automation

/-- An identifier, as its lower-case hyphenated text. -/
structure Id where
  text : String
deriving DecidableEq, Repr, Inhabited

namespace Id

private def hexDigit (n : Nat) : Char :=
  if n < 10 then Char.ofNat (48 + n) else Char.ofNat (87 + n)

def isHex (c : Char) : Bool :=
  c.isDigit || ('a' ≤ c && c ≤ 'f') || ('A' ≤ c && c ≤ 'F')

/-- The last `width` hexadecimal digits of a number. -/
def hexDigits : (width : Nat) → Nat → List Char
  | 0, _ => []
  | width + 1, n => hexDigits width (n / 16) ++ [hexDigit (n % 16)]

/-- What every generated identifier begins with. -/
def generatedLead : String := "019b7777-0000-7000-8000-"

def generated (n : Nat) : Id := ⟨generatedLead ++ String.ofList (hexDigits 12 n)⟩

def zero : Id := ⟨"00000000-0000-0000-0000-000000000000"⟩

/-- Digits in groups of 8, 4, 4, 4 and 12. -/
def grouped (digits : List Char) : String :=
  let part (from_ count : Nat) := String.ofList ((digits.drop from_).take count)
  part 0 8 ++ "-" ++ part 8 4 ++ "-" ++ part 12 4 ++ "-" ++ part 16 4 ++ "-" ++ part 20 12

/-- Reads 32 digits. -/
def simple? (cs : List Char) : Option Id :=
  if cs.length == 32 && cs.all isHex then some ⟨grouped (cs.map Char.toLower)⟩ else none

/-- Reads digits in five groups. -/
def hyphenated? (cs : List Char) : Option Id :=
  if cs.length == 36 && [8, 13, 18, 23].all (fun i => cs[i]? == some '-') then
    simple? (cs.filter (· != '-'))
  else none

/-- Reads an identifier: with or without hyphens, hyphenated also in braces or behind
`urn:uuid:`. -/
def ofText? (text : String) : Option Id :=
  let cs := text.toList
  match cs with
  | '\x7b' :: rest =>
    if rest.getLast? == some '\x7d' then hyphenated? rest.dropLast else none
  | _ =>
    if text.startsWith "urn:uuid:" then hyphenated? (cs.drop 9)
    else simple? cs <|> hyphenated? cs

instance : LT Id := ⟨fun a b => a.text < b.text⟩

instance (a b : Id) : Decidable (a < b) := inferInstanceAs (Decidable (a.text < b.text))

end Id

end Automation
