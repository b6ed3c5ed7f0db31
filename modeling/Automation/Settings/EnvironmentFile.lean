import Automation.Entries
import Automation.Text.Basic
import Automation.Text.Letter

/-!
# Environment files

A text of lines `NAME=value` adds variables to the environment; those that are set already stay as
they are. A value may be quoted, a quoted value may go on over several lines, and a dollar sign in
front of a name, in braces or not, stands for the value of a variable. The first malformed line ends
the reading.
-/

namespace Automation.EnvironmentFile

/-! ## Lines -/

/-- What is open at the end of a line. -/
inductive Opening where
  | complete
  | escape
  | single
  | singleEscape
  | double
  | doubleEscape
  | blank
  | comment
deriving DecidableEq, Repr

/-- What is open behind one character more. -/
def Opening.next (c : Char) : Opening → Opening
  | .escape => .complete
  | .double => if c == '\\' then .doubleEscape else if c == '"' then .complete else .double
  | .doubleEscape => .double
  | .single =>
    if c == '\\' then .singleEscape else if c == Char.ofNat 0x27 then .complete else .single
  | .singleEscape => .single
  | .comment => .comment
  | .complete =>
    if c == '\\' then .escape
    else if c == '"' then .double
    else if c == Char.ofNat 0x27 then .single
    else if Text.isBlank c && c != '\n' && c != '\r' then .blank
    else .complete
  | .blank =>
    if c == '#' then .comment
    else if c == '\\' then .escape
    else if c == '"' then .double
    else if c == Char.ofNat 0x27 then .single
    else .complete

/-- What is open behind the characters, and the characters in front of a comment. -/
def scan (o : Opening) : List Char → Opening × List Char
  | [] => (o, [])
  | c :: cs =>
    if o.next c = .comment then (.comment, [])
    else
      let (o, front) := scan (o.next c) cs
      (o, c :: front)

def rawLines : List Char → List (List Char)
  | [] => []
  | '\n' :: cs => ['\n'] :: rawLines cs
  | c :: cs =>
    match rawLines cs, cs.head? with
    | line :: rest, some _ => (c :: line) :: rest
    | lines, _ => [c] :: lines

def withoutEnd (cs : List Char) : List Char :=
  match cs.reverse with
  | '\n' :: '\r' :: rest => rest.reverse
  | '\n' :: rest => rest.reverse
  | _ => cs

/-- The logical lines: a line that leaves something open is continued by the next one. A line that
is never completed is none. -/
def logicalLines (o : Opening) (before : List Char) : List (List Char) → List (Option (List Char))
  | [] => if o = .complete then [] else [none]
  | line :: rest =>
    let whole := before ++ line
    if (whole.dropWhile Text.isBlank).head? == some '#' then
      some [] :: logicalLines .complete [] rest
    else
      let (o, front) := scan o line
      match o with
      | .complete => some (withoutEnd whole) :: logicalLines .complete [] rest
      | .comment => some (before ++ front) :: logicalLines .complete [] rest
      | o => logicalLines o whole rest

/-! ## Values -/

/-- Where the reading of a value stands. -/
inductive ValueMode where
  | plain
  | double
  | single
  /-- Behind a backslash, inside of double quotes or not. -/
  | escape (quoted : Bool)
  /-- In a name behind a dollar sign, with its characters in reverse. -/
  | name (quoted : Bool) (made : List Char)
  /-- In a name in braces. -/
  | braced (quoted : Bool) (made : List Char)
  /-- Behind the value. -/
  | ended

/-- What stands outside of an escape or a name. -/
private def ValueMode.base (quoted : Bool) : ValueMode := if quoted then .double else .plain

def readValue (value : String → String) (mode : ValueMode) (made : List Char) :
    List Char → Option (List Char)
  | [] =>
    match mode with
    | .single | .double | .braced _ _ | .name true _ | .escape true => none
    | .name false n => some (made.reverse ++ (value (String.ofList n.reverse)).toList)
    | _ => some made.reverse
  | c :: cs =>
    let put (n : List Char) : List Char := (value (String.ofList n.reverse)).toList.reverse ++ made
    match mode with
    | .ended =>
      if c == ' ' || c == '\t' then readValue value .ended made cs
      else if c == '#' then some made.reverse
      else none
    | .escape quoted =>
      if c == 'n' then readValue value (.base quoted) ('\n' :: made) cs
      else if c == '\\' || c == Char.ofNat 0x27 || c == '"' || c == '$' || c == ' ' then
        readValue value (.base quoted) (c :: made) cs
      else none
    | .single =>
      if c == Char.ofNat 0x27 then readValue value .plain made cs
      else readValue value .single (c :: made) cs
    | .name quoted n =>
      if Text.isAlphanumeric c then readValue value (.name quoted (c :: n)) made cs
      else if c == '\x7b' && n.isEmpty then readValue value (.braced quoted []) made cs
      else if c == '$' then readValue value (.name quoted []) (put n) cs
      else readValue value (.base quoted) (c :: put n) cs
    | .braced quoted n =>
      if c == '\x7d' then readValue value (.base quoted) (put n) cs
      else readValue value (.braced quoted (c :: n)) made cs
    | .double =>
      if c == '$' then readValue value (.name true []) made cs
      else if c == '"' then readValue value .plain made cs
      else if c == '\\' then readValue value (.escape true) made cs
      else readValue value .double (c :: made) cs
    | .plain =>
      if c == '$' then readValue value (.name false []) made cs
      else if c == Char.ofNat 0x27 then readValue value .single made cs
      else if c == '"' then readValue value .double made cs
      else if c == '\\' then readValue value (.escape false) made cs
      else if c == ' ' || c == '\t' then readValue value .ended made cs
      else readValue value .plain (c :: made) cs

/-! ## Assignments -/

private def skipBlanks (cs : List Char) : List Char := cs.dropWhile Text.isBlank

/-- A name and what follows it. -/
def readName : List Char → Option (String × List Char)
  | [] => none
  | c :: cs =>
    let isPart (c : Char) : Bool := Text.isAsciiAlphanumeric c || c == '_' || c == '.'
    if c.isAlpha || c == '_' then
      some (String.ofList (c :: cs.takeWhile isPart), cs.dropWhile isPart)
    else none

private def dropEqual : List Char → Option (List Char)
  | '=' :: cs => some cs
  | _ => none

/-- The name that a line assigns to and the text of the value, still as written. The word `export`
may stand in front. -/
def readTarget (cs : List Char) : Option (String × List Char) := do
  let (name, rest) ← readName cs
  let rest := skipBlanks rest
  if name != "export" then return (name, skipBlanks (← dropEqual rest))
  match dropEqual rest with
  | some rest => return (name, skipBlanks rest)
  | none =>
    let (name, rest) ← readName rest
    return (name, skipBlanks (← dropEqual (skipBlanks rest)))

/-- Adds the variables of the lines to the environment, until one is malformed; `seen` holds the
values assigned so far. -/
def load (environment seen : Entries String) : List (Option (List Char)) → Entries String
  | [] => environment
  | none :: _ => environment
  | some line :: rest =>
    let cs := skipBlanks (Text.dropTrailing Text.isBlank line)
    if cs.isEmpty || cs.head? == some '#' then load environment seen rest
    else match readTarget cs with
      | none => environment
      | some (name, text) =>
        let lookup (n : String) : String :=
          ((Entries.get? environment n) <|> (Entries.get? seen n)).getD ""
        let value := if text.head? == some '#' then some [] else readValue lookup .plain [] text
        match value with
        | none => environment
        | some value =>
          let value := String.ofList value
          let environment := if Entries.has environment name then environment
            else Entries.insert environment name value
          load environment (Entries.insert seen name value) rest

def extend (environment : Entries String) (text : String) : Entries String :=
  let cs := match text.toList with
    | c :: cs => if c.toNat = 0xFEFF then cs else c :: cs
    | [] => []
  load environment [] (logicalLines .complete [] (rawLines cs))

end Automation.EnvironmentFile
