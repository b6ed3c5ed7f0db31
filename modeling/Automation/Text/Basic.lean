/-!
# Cutting text

Trimming, splitting and searching over lists of characters. A text is taken apart as a list of
its characters, so each operation is a recursion on that list; the versions on `String` only
convert. Blank characters are those with the White_Space property.
-/

namespace Automation.Text

/-- A character with the White_Space property. -/
def isBlank (c : Char) : Bool :=
  let n := c.toNat
  (9 ≤ n && n ≤ 13) || n == 32 || n == 0x85 || n == 0xA0 || n == 0x1680 ||
    (0x2000 ≤ n && n ≤ 0x200A) || n == 0x2028 || n == 0x2029 || n == 0x202F ||
    n == 0x205F || n == 0x3000

def isAsciiAlphanumeric (c : Char) : Bool := c.isAlpha || c.isDigit

/-- The characters without a trailing run that satisfies `p`. -/
def dropTrailing (p : Char → Bool) (cs : List Char) : List Char :=
  (cs.reverse.dropWhile p).reverse

/-- The characters without the leading and the trailing run that satisfy `p`. -/
def stripChars (p : Char → Bool) (cs : List Char) : List Char :=
  dropTrailing p (cs.dropWhile p)

def trimChars (cs : List Char) : List Char := stripChars isBlank cs

def strip (p : Char → Bool) (s : String) : String := String.ofList (stripChars p s.toList)

def trim (s : String) : String := String.ofList (trimChars s.toList)

def isBlankText (s : String) : Bool := s.toList.all isBlank

/-- What follows `lead`, when the characters start with it. -/
def dropLead? : List Char → List Char → Option (List Char)
  | [], cs => some cs
  | _ :: _, [] => none
  | l :: lead, c :: cs => if l = c then dropLead? lead cs else none

/-- What precedes `tail`, when the characters end with it. -/
def dropTail? (tail cs : List Char) : Option (List Char) :=
  (dropLead? tail.reverse cs.reverse).map List.reverse

/-- The parts before and after the first character that satisfies `p`. -/
def cutWhere (p : Char → Bool) : List Char → Option (List Char × List Char)
  | [] => none
  | c :: cs => if p c then some ([], cs) else (cutWhere p cs).map fun (l, r) => (c :: l, r)

/-- The parts before and after the first occurrence of `mark`. -/
def cutAt (mark : List Char) : List Char → Option (List Char × List Char)
  | [] => if mark.isEmpty then some ([], []) else none
  | c :: cs =>
    match dropLead? mark (c :: cs) with
    | some rest => some ([], rest)
    | none => (cutAt mark cs).map fun (l, r) => (c :: l, r)

def containsChars (mark : List Char) : List Char → Bool
  | [] => mark.isEmpty
  | c :: cs => (dropLead? mark (c :: cs)).isSome || containsChars mark cs

def contains (s mark : String) : Bool := containsChars mark.toList s.toList

/-- How often `mark` occurs in the characters without overlap; the first `skip` of them belong to an
occurrence counted before. -/
def count (mark : List Char) (skip : Nat) : List Char → Nat
  | [] => 0
  | c :: cs =>
    match skip with
    | skip + 1 => count mark skip cs
    | 0 =>
      if (dropLead? mark (c :: cs)).isSome then 1 + count mark (mark.length - 1) cs
      else count mark 0 cs

/-- The parts between the characters that satisfy `p`; one part more than there are such
characters. -/
def splitWhere (p : Char → Bool) : List Char → List (List Char)
  | [] => [[]]
  | c :: cs =>
    match splitWhere p cs with
    | [] => [[c]]
    | part :: parts => if p c then [] :: part :: parts else (c :: part) :: parts

/-- The non-empty parts between blanks. -/
def words (s : String) : List String :=
  ((splitWhere isBlank s.toList).filter (!·.isEmpty)).map String.ofList

/-- The number that the ASCII digits spell. -/
def natOfDigits (ds : List Char) : Nat := ds.foldl (fun n c => n * 10 + (c.toNat - 48)) 0

/-- A whole number below `bound`, written in ASCII digits, with a plus sign or without. -/
def nat? (bound : Nat) (s : String) : Option Nat :=
  let ds := match s.toList with
    | '+' :: rest => rest
    | cs => cs
  if ds.isEmpty || !ds.all Char.isDigit then none
  else if natOfDigits ds < bound then some (natOfDigits ds) else none

def byteSize : List Char → Nat
  | [] => 0
  | c :: cs => c.utf8Size + byteSize cs

def utf8 (s : String) : List UInt8 := s.toUTF8.toList

/-- A byte that continues a UTF-8 sequence. -/
private def isTail (b : Nat) : Bool := 0x80 ≤ b && b ≤ 0xBF

/-- The bytes that may follow a leading byte. -/
private def mayFollow (lead b : Nat) : Bool :=
  if lead == 0xE0 then 0xA0 ≤ b && b ≤ 0xBF
  else if lead == 0xED then 0x80 ≤ b && b ≤ 0x9F
  else if lead == 0xF0 then 0x90 ≤ b && b ≤ 0xBF
  else if lead == 0xF4 then 0x80 ≤ b && b ≤ 0x8F
  else isTail b

/-- How many bytes follow a leading byte; none at all for a byte that cannot lead. -/
private def tailLength? (b : Nat) : Option Nat :=
  if b < 0x80 then some 0
  else if 0xC2 ≤ b && b ≤ 0xDF then some 1
  else if 0xE0 ≤ b && b ≤ 0xEF then some 2
  else if 0xF0 ≤ b && b ≤ 0xF4 then some 3
  else none

/-- A UTF-8 sequence under way: its leading byte, how many bytes have come and are owed, and the
code point so far. -/
structure Utf8Progress where
  lead : Nat
  seen : Nat
  owed : Nat
  value : Nat

def replacementChar : Char := Char.ofNat 0xFFFD

/-- Starts a sequence at a byte, behind the characters already made. -/
private def startSequence (b : Nat) (made : List Char) : Option Utf8Progress × List Char :=
  match tailLength? b with
  | none => (none, replacementChar :: made)
  | some 0 => (none, Char.ofNat b :: made)
  | some n =>
    (some ⟨b, 0, n, if n == 1 then b - 0xC0 else if n == 2 then b - 0xE0 else b - 0xF0⟩, made)

/-- The characters of the bytes, behind those already made, which are in reverse. -/
def decodeOnto (progress : Option Utf8Progress) (made : List Char) : List UInt8 → List Char
  | [] => (if progress.isSome then replacementChar :: made else made).reverse
  | byte :: rest =>
    let b := byte.toNat
    match progress with
    | none =>
      let (next, made) := startSequence b made
      decodeOnto next made rest
    | some p =>
      if (if p.seen == 0 then mayFollow p.lead b else isTail b) then
        let value := p.value * 64 + (b - 0x80)
        if p.owed == 1 then decodeOnto none (Char.ofNat value :: made) rest
        else decodeOnto (some ⟨p.lead, p.seen + 1, p.owed - 1, value⟩) made rest
      else
        let (next, made) := startSequence b (replacementChar :: made)
        decodeOnto next made rest

/-- The text that the bytes spell, each malformed sequence replaced by U+FFFD. A malformed sequence
reaches as far as its bytes could still begin a well-formed one. -/
def ofUtf8Lossy (bytes : List UInt8) : String := String.ofList (decodeOnto none [] bytes)

end Automation.Text
