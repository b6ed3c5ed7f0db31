import Automation.Text.Case
import Automation.Text.Letter

/-!
# Patterns

Regular patterns over the characters of a text. A pattern may look at the characters around a
position, may repeat greedily or not, and may mark the part of a match that is its value.
-/

namespace Automation

namespace Pattern

inductive CharSet where
  | none
  | range (low high : Nat)
  | word
  | digit
  | blank
  | union (a b : CharSet)
  | both (a b : CharSet)
  | complement (a : CharSet)
  /-- With a character, all that differ from it only in case. -/
  | anyCase (a : CharSet)

namespace CharSet

def one (c : Char) : CharSet := range c.toNat c.toNat

def has : CharSet → Char → Bool
  | none, _ => false
  | range low high, c => low ≤ c.toNat && c.toNat ≤ high
  | word, c => Text.isWordChar c
  | digit, c => Text.isDecimalDigit c
  | blank, c => Text.isBlank c
  | union a b, c => a.has c || b.has c
  | both a b, c => a.has c && b.has c
  | complement a, c => !a.has c
  | anyCase a, c => a.has c || (Text.caseVariants c).any a.has

def ofList (sets : List CharSet) : CharSet := sets.foldl union none

/-- A character, and those that differ from it only in case. -/
def variants (c : Char) : CharSet := ofList ((Text.caseVariants c).map one)

def ascii : CharSet := range 0 0x7F

end CharSet

/-- What must hold at a position, given by the characters before and behind it. -/
inductive Look where
  | textStart
  | textEnd
  | lineStart
  | lineEnd
  | wordBound
  | notWordBound
  | asciiWordBound
  | notAsciiWordBound

def Look.holds (l : Look) (before behind : Option Char) : Bool :=
  let edge (isWord : Char → Bool) : Bool := before.any isWord != behind.any isWord
  let asciiWord (c : Char) : Bool := c.toNat < 0x80 && Text.isWordChar c
  match l with
  | textStart => before.isNone
  | textEnd => behind.isNone
  | lineStart => before.all (· == '\n')
  | lineEnd => behind.all (· == '\n')
  | wordBound => edge Text.isWordChar
  | notWordBound => !edge Text.isWordChar
  | asciiWordBound => edge asciiWord
  | notAsciiWordBound => !edge asciiWord

end Pattern

inductive Pattern where
  | empty
  | chars (set : Pattern.CharSet)
  | look (l : Pattern.Look)
  | seq (a b : Pattern)
  /-- The first of two where it matches, else the second. -/
  | alt (a b : Pattern)
  /-- At least `low` times, and at most `high` times if that is given. -/
  | times (p : Pattern) (low : Nat) (high : Option Nat) (greedy : Bool)
  /-- The part of the match that is the value. -/
  | value (p : Pattern)

namespace Pattern

/-- Whether every match of the pattern has characters. -/
def consumes : Pattern → Bool
  | empty => false
  | chars _ => true
  | look _ => false
  | seq a b => a.consumes || b.consumes
  | alt a b => a.consumes && b.consumes
  | times p low _ _ => low > 0 && p.consumes
  | value p => p.consumes

/-- The patterns one after the other. -/
def ofSeq : List Pattern → Pattern
  | [] => empty
  | [p] => p
  | p :: rest => seq p (ofSeq rest)

/-- The first of the patterns that matches. -/
def ofAlternatives : List Pattern → Pattern
  | [] => empty
  | [p] => p
  | p :: rest => alt p (ofAlternatives rest)

end Pattern

end Automation
