import Automation.Json.Literal
import Automation.Json.Source

/-!
# What is wrong with a JSON text

A malformed text is reported by the first thing that cannot go on and the place behind it, counted
in lines and in bytes of the line. The search is one pass over the bytes with the brackets that are
open.
-/

namespace Automation.Json

inductive Fault.Cause where
  | endInList
  | endInObject
  | endInString
  | endInValue
  | expectedColon
  | expectedListEnd
  | expectedObjectEnd
  | expectedIdent
  | expectedValue
  | badEscape
  | badNumber
  | outOfRange
  | controlCharacter
  | keyNotString
  | loneSurrogate
  | trailingComma
  | trailingCharacters
  | endOfEscape
  | tooDeep
deriving DecidableEq, Repr

def Fault.Cause.message : Fault.Cause → String
  | endInList => "EOF while parsing a list"
  | endInObject => "EOF while parsing an object"
  | endInString => "EOF while parsing a string"
  | endInValue => "EOF while parsing a value"
  | expectedColon => "expected `:`"
  | expectedListEnd => "expected `,` or `]`"
  | expectedObjectEnd => "expected `,` or `\x7d`"
  | expectedIdent => "expected ident"
  | expectedValue => "expected value"
  | badEscape => "invalid escape"
  | badNumber => "invalid number"
  | outOfRange => "number out of range"
  | controlCharacter => "control character (\\u0000-\\u001F) found while parsing a string"
  | keyNotString => "key must be a string"
  | loneSurrogate => "lone leading surrogate in hex escape"
  | trailingComma => "trailing comma"
  | trailingCharacters => "trailing characters"
  | endOfEscape => "unexpected end of hex escape"
  | tooDeep => "recursion limit exceeded"

/-- A malformed text: why, and behind how many lines and bytes. -/
structure Fault where
  cause : Fault.Cause
  line : Nat
  column : Nat
deriving DecidableEq, Repr

namespace Fault

def message (f : Fault) : String :=
  let cause := f.cause.message
  let line := f.line
  let column := f.column
  s!"{cause} at line {line} column {column}"

/-- Where a number literal stands. -/
inductive NumberPart where
  | start
  | zero
  | whole
  | point
  | fraction
  | exponentMark
  | exponentSign
  | exponent

/-- Where the pass stands. -/
inductive Position where
  | value
  | firstItem
  | nextItem
  | firstKey
  | nextKey
  | colon
  | behind
  | word (rest : List Char)
  /-- With the characters of the literal so far, in reverse. -/
  | number (part : NumberPart) (made : List Char)
  | text (isKey : Bool)
  | escape (isKey : Bool)
  /-- The digits still to come of an escape, its value, whether one was no digit, and whether it is
  the second half of a pair. -/
  | unit (isKey : Bool) (left value : Nat) (bad second : Bool)
  | pairBackslash (isKey : Bool)
  | pairUnit (isKey : Bool)

/-- The open brackets, innermost first; an object is `true`. -/
abbrev Open := List Bool

/-- The state behind a byte, or what is wrong with the byte. -/
abbrev Step := Except Cause (Position × Open)

private def isBlank (c : Char) : Bool := c == ' ' || c == '\n' || c == '\t' || c == '\r'

private def hexValue? (c : Char) : Option Nat :=
  if c.isDigit then some (c.toNat - 48)
  else if 'a' ≤ c && c ≤ 'f' then some (c.toNat - 87)
  else if 'A' ≤ c && c ≤ 'F' then some (c.toNat - 55)
  else none

def beginValue (c : Char) (stack : Open) : Step :=
  let opened (isObject : Bool) (next : Position) : Step :=
    if stack.length < maxDepth then .ok (next, isObject :: stack) else .error .tooDeep
  match c with
  | 'n' => .ok (.word ['u', 'l', 'l'], stack)
  | 't' => .ok (.word ['r', 'u', 'e'], stack)
  | 'f' => .ok (.word ['a', 'l', 's', 'e'], stack)
  | '"' => .ok (.text false, stack)
  | '[' => opened false .firstItem
  | '\x7b' => opened true .firstKey
  | '-' => .ok (.number .start [c], stack)
  | '0' => .ok (.number .zero [c], stack)
  | _ => if c.isDigit then .ok (.number .whole [c], stack) else .error .expectedValue

def afterValue (c : Char) : Open → Step
  | [] => if isBlank c then .ok (.behind, []) else .error .trailingCharacters
  | isObject :: rest =>
    if isBlank c then .ok (.behind, isObject :: rest)
    else if c == ',' then .ok (if isObject then .nextKey else .nextItem, isObject :: rest)
    else if isObject then if c == '\x7d' then .ok (.behind, rest) else .error .expectedObjectEnd
    else if c == ']' then .ok (.behind, rest) else .error .expectedListEnd

/-- What comes behind the quote that ends a string. -/
def closed (isKey : Bool) : Position := if isKey then .colon else .behind

/-- The part of a number that a byte leads to; none if the number ends in front of it. -/
def NumberPart.next (c : Char) : NumberPart → Except Cause (Option NumberPart)
  | start =>
    if c == '0' then .ok (some .zero)
    else if c.isDigit then .ok (some .whole)
    else .error .badNumber
  | zero =>
    if c.isDigit then .error .badNumber
    else if c == '.' then .ok (some .point)
    else if c == 'e' || c == 'E' then .ok (some .exponentMark)
    else .ok none
  | whole =>
    if c.isDigit then .ok (some .whole)
    else if c == '.' then .ok (some .point)
    else if c == 'e' || c == 'E' then .ok (some .exponentMark)
    else .ok none
  | point => if c.isDigit then .ok (some .fraction) else .error .badNumber
  | fraction =>
    if c.isDigit then .ok (some .fraction)
    else if c == 'e' || c == 'E' then .ok (some .exponentMark)
    else .ok none
  | exponentMark =>
    if c == '+' || c == '-' then .ok (some .exponentSign)
    else if c.isDigit then .ok (some .exponent)
    else .error .badNumber
  | exponentSign => if c.isDigit then .ok (some .exponent) else .error .badNumber
  | exponent => if c.isDigit then .ok (some .exponent) else .ok none

def NumberPart.isWhole : NumberPart → Bool
  | zero | whole | fraction | exponent => true
  | start | point | exponentMark | exponentSign => false

private def inRange (made : List Char) : Bool :=
  ((Literal.ofChars? made.reverse).bind Literal.number?).isSome

/-- What an escape of four digits leads to. -/
def unitEnd (isKey : Bool) (value : Nat) (second : Bool) : Except Cause Position :=
  let isLow := 0xDC00 ≤ value && value ≤ 0xDFFF
  let isHigh := 0xD800 ≤ value && value ≤ 0xDBFF
  if second then if isLow then .ok (.text isKey) else .error .loneSurrogate
  else if isLow then .error .loneSurrogate
  else if isHigh then .ok (.pairBackslash isKey)
  else .ok (.text isKey)

def step (stack : Open) (c : Char) : Position → Step
  | .value => if isBlank c then .ok (.value, stack) else beginValue c stack
  | .firstItem =>
    if isBlank c then .ok (.firstItem, stack)
    else if c == ']' then .ok (.behind, stack.drop 1)
    else beginValue c stack
  | .nextItem =>
    if isBlank c then .ok (.nextItem, stack)
    else if c == ']' then .error .trailingComma
    else beginValue c stack
  | .firstKey =>
    if isBlank c then .ok (.firstKey, stack)
    else if c == '\x7d' then .ok (.behind, stack.drop 1)
    else if c == '"' then .ok (.text true, stack)
    else .error .keyNotString
  | .nextKey =>
    if isBlank c then .ok (.nextKey, stack)
    else if c == '"' then .ok (.text true, stack)
    else if c == '\x7d' then .error .trailingComma
    else .error .keyNotString
  | .colon =>
    if isBlank c then .ok (.colon, stack)
    else if c == ':' then .ok (.value, stack)
    else .error .expectedColon
  | .behind => afterValue c stack
  | .word [] => afterValue c stack
  | .word (d :: rest) => if c == d then .ok (.word rest, stack) else .error .expectedIdent
  | .number part made =>
    match part.next c with
    | .error e => .error e
    | .ok (some next) => .ok (.number next (c :: made), stack)
    | .ok none => afterValue c stack
  | .text isKey =>
    if c == '"' then .ok (closed isKey, stack)
    else if c == '\\' then .ok (.escape isKey, stack)
    else if c.toNat < 0x20 then .error .controlCharacter
    else .ok (.text isKey, stack)
  | .escape isKey =>
    if c == 'u' then .ok (.unit isKey 4 0 false false, stack)
    else if "\"\\/bfnrt".toList.contains c then .ok (.text isKey, stack)
    else .error .badEscape
  | .unit isKey left value bad second =>
    let bad := bad || (hexValue? c).isNone
    let value := value * 16 + (hexValue? c).getD 0
    if left ≤ 1 then
      if bad then .error .badEscape else (unitEnd isKey value second).map fun p => (p, stack)
    else .ok (.unit isKey (left - 1) value bad second, stack)
  | .pairBackslash isKey =>
    if c == '\\' then .ok (.pairUnit isKey, stack) else .error .endOfEscape
  | .pairUnit isKey =>
    if c == 'u' then .ok (.unit isKey 4 0 false true, stack) else .error .endOfEscape

/-- What is wrong if the text ends here. -/
def atEnd (stack : Open) : Position → Option Cause
  | .value | .nextItem | .nextKey => some .endInValue
  | .firstItem => some .endInList
  | .firstKey | .colon => some .endInObject
  | .word (_ :: _) => some .endInValue
  | .behind | .word [] => open_ stack
  | .number part made =>
    if !part.isWhole then some .endInValue
    else if !inRange made then some .outOfRange
    else open_ stack
  | .text _ | .escape _ | .unit _ _ _ _ _ | .pairBackslash _ | .pairUnit _ => some .endInString
where
  open_ : Open → Option Cause
    | [] => none
    | true :: _ => some .endInObject
    | false :: _ => some .endInList

/-- Whether a number has just ended that is out of range. -/
def endsOutOfRange (c : Char) : Position → Bool
  | .number part made =>
    match part.next c with
    | .ok none => !inRange made
    | _ => false
  | _ => false

/-- The first fault behind `index` bytes, with the number of bytes in front of it. -/
def search (index : Nat) (p : Position) (stack : Open) : List Char → Option (Cause × Nat)
  | [] => (atEnd stack p).map fun e => (e, index)
  | c :: rest =>
    if endsOutOfRange c p then some (.outOfRange, index)
    else match step stack c p with
      | .error e => some (e, index + 1)
      | .ok (next, stack) => search (index + 1) next stack rest

/-- The bytes of a text, each as a character. -/
def bytes (text : String) : List Char := text.toUTF8.toList.map fun b => Char.ofNat b.toNat

def ofText? (text : String) : Option Fault :=
  (search 0 .value [] (bytes text)).map fun (cause, index) =>
    let before := (bytes text).take index
    { cause
      line := 1 + before.countP (· == '\n')
      column := (before.reverse.takeWhile (· != '\n')).length }

/-- The whole value that a text begins with, if anything but blanks follows it. -/
def beforeTrailing? (text : String) : Option String :=
  match search 0 .value [] (bytes text) with
  | some (.trailingCharacters, index) => String.fromUTF8? (text.toUTF8.extract 0 (index - 1))
  | _ => none

end Fault

end Automation.Json
