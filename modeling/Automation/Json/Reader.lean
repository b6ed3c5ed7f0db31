import Automation.Json.Literal
import Automation.Json.Source

/-!
# Reading JSON text

A text is cut into tokens by one pass over its characters, and the tokens are put together by one
pass over them with a stack of the arrays and objects that are still open. Both passes are
recursions on lists, so reading always ends.
-/

namespace Automation.Json

inductive Token where
  | openArray
  | closeArray
  | openObject
  | closeObject
  | comma
  | colon
  | atom (s : Source)

/-- A string under construction: its characters in reverse, a high surrogate that waits for its
partner, and whether every surrogate so far had one. -/
structure Partial where
  chars : List Char
  high : Option Nat
  whole : Bool

namespace Partial

def empty : Partial := ⟨[], none, true⟩

/-- A surrogate that waits in vain spoils the string. -/
def settle (p : Partial) : Partial := ⟨p.chars, none, p.whole && p.high.isNone⟩

def push (p : Partial) (c : Char) : Partial :=
  let q := p.settle
  ⟨c :: q.chars, none, q.whole⟩

/-- Adds a UTF-16 unit given by an escape. -/
def pushUnit (p : Partial) (u : Nat) : Partial :=
  if 0xD800 ≤ u && u ≤ 0xDBFF then { p.settle with high := some u }
  else if 0xDC00 ≤ u && u ≤ 0xDFFF then
    match p.high with
    | some h =>
      ⟨Char.ofNat (0x10000 + (h - 0xD800) * 0x400 + (u - 0xDC00)) :: p.chars, none, p.whole⟩
    | none => { p with whole := false }
  else p.push (Char.ofNat u)

def text? (p : Partial) : Option String :=
  let q := p.settle
  if q.whole then some (String.ofList q.chars.reverse) else none

end Partial

/-- Where the first pass stands. -/
inductive Mode where
  | between
  | word (chars : List Char)
  | text (p : Partial)
  | escape (p : Partial)
  | unit (p : Partial) (digits : Nat) (value : Nat)

def hexValue? (c : Char) : Option Nat :=
  if c.isDigit then some (c.toNat - 48)
  else if 'a' ≤ c && c ≤ 'f' then some (c.toNat - 87)
  else if 'A' ≤ c && c ≤ 'F' then some (c.toNat - 55)
  else none

def isWordPart (c : Char) : Bool :=
  c.isAlpha || c.isDigit || c == '-' || c == '+' || c == '.'

def wordToken? (reversed : List Char) : Option Token :=
  let cs := reversed.reverse
  if cs == "null".toList then some (.atom .null)
  else if cs == "true".toList then some (.atom (.bool true))
  else if cs == "false".toList then some (.atom (.bool false))
  else (Literal.ofChars? cs).map fun l => .atom (.number l.number?)

/-- What a character does that stands between tokens: the tokens it makes, and the mode after it. -/
def begin? (c : Char) : Option (List Token × Mode) :=
  match c with
  | ' ' | '\n' | '\t' | '\r' => some ([], .between)
  | '[' => some ([.openArray], .between)
  | ']' => some ([.closeArray], .between)
  | '\x7b' => some ([.openObject], .between)
  | '\x7d' => some ([.closeObject], .between)
  | ',' => some ([.comma], .between)
  | ':' => some ([.colon], .between)
  | '"' => some ([], .text .empty)
  | _ => if isWordPart c then some ([], .word [c]) else none

def escaped? (c : Char) : Option Char :=
  match c with
  | '"' | '\\' | '/' => some c
  | 'b' => some (Char.ofNat 8)
  | 'f' => some (Char.ofNat 12)
  | 'n' => some '\n'
  | 'r' => some '\r'
  | 't' => some '\t'
  | _ => none

/-- What a character does in each mode: the tokens it completes, and the mode after it. -/
def Mode.step? : Mode → Char → Option (List Token × Mode)
  | .between, c => begin? c
  | .word w, c =>
    if isWordPart c then some ([], .word (c :: w))
    else do
      let t ← wordToken? w
      let (ts, mode) ← begin? c
      return (t :: ts, mode)
  | .text p, c =>
    if c == '"' then some ([.atom (.string p.text?)], .between)
    else if c == '\\' then some ([], .escape p)
    else if c.toNat < 0x20 then none
    else some ([], .text (p.push c))
  | .escape p, c =>
    if c == 'u' then some ([], .unit p 0 0)
    else (escaped? c).map fun d => ([], .text (p.push d))
  | .unit p n v, c => do
    let d ← hexValue? c
    if n == 3 then return ([], .text (p.pushUnit (v * 16 + d)))
    else return ([], .unit p (n + 1) (v * 16 + d))

/-- The tokens still owed at the end of the text, or nothing inside of a string. -/
def Mode.finish? : Mode → Option (List Token)
  | .between => some []
  | .word w => (wordToken? w).map ([·])
  | _ => none

/-- The tokens of the characters, behind those already made, which are in reverse. -/
def tokensOnto? (mode : Mode) (made : List Token) : List Char → Option (List Token)
  | [] => mode.finish?.map fun ts => made.reverse ++ ts
  | c :: cs =>
    match mode.step? c with
    | none => none
    | some (ts, next) => tokensOnto? next (ts.reverse ++ made) cs

def tokens? (cs : List Char) : Option (List Token) := tokensOnto? .between [] cs

/-- An array or object that is still open, its parts in reverse. -/
inductive Frame where
  | array (items : List Source)
  /-- With the name whose value comes next. -/
  | object (members : List (Option String × Source)) (name : Option String)

/-- What may come next inside the innermost open array or object. -/
inductive Expect where
  | value
  | valueOrClose
  | nameOrClose
  | name
  | colon
  | separator

/-- The state of the second pass. -/
inductive Builder where
  | building (stack : List Frame) (expect : Expect)
  | finished (s : Source)

/-- Puts a finished value where it belongs. -/
def Builder.place (stack : List Frame) (s : Source) : Builder :=
  match stack with
  | [] => .finished s
  | .array items :: rest => .building (.array (s :: items) :: rest) .separator
  | .object members name :: rest =>
    .building (.object ((name, s) :: members) none :: rest) .separator

def Builder.step? : Builder → Token → Option Builder
  | .finished _, _ => none
  | .building stack expect, t =>
    let close : Option Builder :=
      match t, stack with
      | .closeArray, .array items :: rest => some (place rest (.array items.reverse))
      | .closeObject, .object members _ :: rest => some (place rest (.object members.reverse))
      | _, _ => none
    let value : Option Builder :=
      match t with
      | .atom s => some (place stack s)
      | .openArray => some (.building (.array [] :: stack) .valueOrClose)
      | .openObject => some (.building (.object [] none :: stack) .nameOrClose)
      | _ => none
    let name : Option Builder :=
      match t, stack with
      | .atom (.string s), .object members _ :: rest =>
        some (.building (.object members s :: rest) .colon)
      | _, _ => none
    match expect with
    | .value => value
    | .valueOrClose => value <|> close
    | .name => name
    | .nameOrClose => name <|> close
    | .colon => match t with
      | .colon => some (.building stack .value)
      | _ => none
    | .separator =>
      match t, stack with
      | .comma, .array _ :: _ => some (.building stack .value)
      | .comma, .object _ _ :: _ => some (.building stack .name)
      | _, _ => close

def build? : Builder → List Token → Option Source
  | .finished s, [] => some s
  | .building _ _, [] => none
  | b, t :: ts =>
    match b.step? t with
    | none => none
    | some next => build? next ts

/-- The structure of a JSON text, or nothing if it is malformed. -/
def Source.read? (text : String) : Option Source := do
  build? (.building [] .value) (← tokens? text.toList)

def Value.read? (text : String) : Option Value := do
  (← Source.read? text).value? maxDepth

end Automation.Json
