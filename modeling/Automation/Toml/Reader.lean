import Automation.Toml.Scalar
import Automation.Toml.Tree

/-!
# Reading TOML

A document is read line by line: a header opens a table, a key with a value adds to the open one.
Values nest in arrays and inline tables, at most 79 deep. Every step takes characters away, so the
length of the text bounds the number of steps.
-/

namespace Automation.Toml

open Json (Source)

private def isSpace (c : Char) : Bool := c == ' ' || c == '\t'

private def skipSpace (cs : List Char) : List Char := cs.dropWhile isSpace

/-- A character that may stand in a comment or literal string. -/
private def isPrintable (c : Char) : Bool :=
  c == '\t' || (0x20 ≤ c.toNat && c.toNat != 0x7F)

/-- The characters behind a line break, if one comes next. -/
private def newline? : List Char → Option (List Char)
  | '\n' :: rest => some rest
  | '\r' :: '\n' :: rest => some rest
  | _ => none

private def skipComment (cs : List Char) : List Char :=
  match cs with
  | '#' :: rest => rest.dropWhile isPrintable
  | rest => rest

/-- The characters behind the end of a line that holds nothing more, comments apart. -/
private def lineEnd? (cs : List Char) : Option (List Char) :=
  match skipComment (skipSpace cs) with
  | [] => some []
  | rest => newline? rest

/-- Skips blanks, comments and line breaks. -/
private def skipLines : (fuel : Nat) → List Char → List Char
  | 0, cs => cs
  | fuel + 1, cs =>
    let rest := skipComment (skipSpace cs)
    match newline? rest with
    | some more => skipLines fuel more
    | none => rest

/-! ## Strings and keys -/

private def hexValue? (c : Char) : Option Nat :=
  if c.isDigit then some (c.toNat - 48)
  else if 'a' ≤ c && c ≤ 'f' then some (c.toNat - 87)
  else if 'A' ≤ c && c ≤ 'F' then some (c.toNat - 55)
  else none

/-- The character with the code point that so many hexadecimal digits give. -/
private def codePoint? (count : Nat) (cs : List Char) : Option (Char × List Char) := do
  let ds ← (cs.take count).mapM hexValue?
  if ds.length != count then none
  let n := ds.foldl (fun n d => n * 16 + d) 0
  if n < 0xD800 || (0xDFFF < n && n ≤ 0x10FFFF) then some (Char.ofNat n, cs.drop count) else none

/-- The character that an escape stands for, behind its backslash. -/
private def escape? (cs : List Char) : Option (Char × List Char) :=
  match cs with
  | 'b' :: rest => some (Char.ofNat 8, rest)
  | 't' :: rest => some ('\t', rest)
  | 'n' :: rest => some ('\n', rest)
  | 'f' :: rest => some (Char.ofNat 12, rest)
  | 'r' :: rest => some ('\r', rest)
  | '"' :: rest => some ('"', rest)
  | '\\' :: rest => some ('\\', rest)
  | 'u' :: rest => codePoint? 4 rest
  | 'U' :: rest => codePoint? 8 rest
  | _ => none

private def skipBreaks : List Char → List Char
  | c :: rest =>
    if isSpace c || c == '\n' then skipBreaks rest
    else match c, rest with
      | '\r', '\n' :: _ => skipBreaks rest
      | _, _ => c :: rest
  | [] => []

/-- A string in double quotes, behind the opening one. -/
private def basicString? :
    (fuel : Nat) → (made : List Char) → List Char → Option (String × List Char)
  | 0, _, _ => none
  | _, _, [] => none
  | fuel + 1, made, c :: rest =>
    if c == '"' then some (String.ofList made.reverse, rest)
    else if c == '\\' then do
      let (d, more) ← escape? rest
      basicString? fuel (d :: made) more
    else if isPrintable c then basicString? fuel (c :: made) rest
    else none

/-- A string in single quotes, behind the opening one. -/
private def literalString? (cs : List Char) : Option (String × List Char) :=
  let body := cs.takeWhile fun c => isPrintable c && c.toNat != 0x27
  match cs.drop body.length with
  | c :: rest => if c.toNat == 0x27 then some (String.ofList body, rest) else none
  | [] => none

/-- A string over several lines, behind its opening quotes. Three quotes close it, of more than
three the first ones belong to it. -/
private def longString? (mark : Char) (escapes : Bool) :
    (fuel : Nat) → (made : List Char) → List Char → Option (String × List Char)
  | 0, _, _ => none
  | _, _, [] => none
  | fuel + 1, made, c :: rest =>
    if c == mark then
      let count := 1 + (rest.takeWhile (· == mark)).length
      if count ≥ 3 then
        let inside := min (count - 3) 2
        some (String.ofList (List.replicate inside mark ++ made).reverse, rest.drop (inside + 2))
      else longString? mark escapes fuel (c :: made) rest
    else if escapes && c == '\\' then
      match newline? (skipSpace rest) with
      | some more => longString? mark escapes fuel made (skipBreaks more)
      | none => do
        let (d, more) ← escape? rest
        longString? mark escapes fuel (d :: made) more
    else match newline? (c :: rest) with
      | some more => longString? mark escapes fuel ('\n' :: made) more
      | none => if isPrintable c then longString? mark escapes fuel (c :: made) rest else none

private def afterBreak (cs : List Char) : List Char := (newline? cs).getD cs

private def quoteMark : Char := Char.ofNat 0x27

/-- A string of any of the four kinds. -/
private def string? (cs : List Char) : Option (String × List Char) :=
  match cs with
  | '"' :: '"' :: '"' :: rest => longString? '"' true (cs.length + 1) [] (afterBreak rest)
  | '"' :: rest => basicString? (cs.length + 1) [] rest
  | a :: rest =>
    if a != quoteMark then none
    else match rest with
      | b :: c :: more =>
        if b == quoteMark && c == quoteMark then
          longString? quoteMark false (cs.length + 1) [] (afterBreak more)
        else literalString? rest
      | _ => literalString? rest
  | [] => none

private def isBareKey (c : Char) : Bool := Text.isAsciiAlphanumeric c || c == '_' || c == '-'

private def simpleKey? (cs : List Char) : Option (String × List Char) :=
  match cs with
  | '"' :: rest => basicString? (cs.length + 1) [] rest
  | c :: rest =>
    if c == quoteMark then literalString? rest
    else
      let name := cs.takeWhile isBareKey
      if name.isEmpty then none else some (String.ofList name, cs.drop name.length)
  | [] => none

/-- A key: names with points between them, blanks around them apart. -/
private def key? : (fuel : Nat) → List Char → Option (List String × List Char)
  | 0, _ => none
  | fuel + 1, cs => do
    let (name, rest) ← simpleKey? (skipSpace cs)
    match skipSpace rest with
    | '.' :: more => do
      let (names, rest) ← key? fuel more
      return (name :: names, rest)
    | rest => return ([name], rest)

/-! ## Values -/

def maxNesting : Nat := 79

private def isTokenChar (c : Char) : Bool :=
  Text.isAsciiAlphanumeric c || c == '+' || c == '-' || c == '_' || c == '.'

private def scalar? (cs : List Char) : Option (Source × List Char) :=
  match dateTime? cs with
  | some found => some found
  | none => do
    let token := cs.takeWhile isTokenChar
    let rest := cs.drop token.length
    if token == "true".toList then return (.bool true, rest)
    if token == "false".toList then return (.bool false, rest)
    return (← number? token, rest)

mutual

private def value? : (fuel depth : Nat) → List Char → Option (Source × List Char)
  | 0, _, _ => none
  | fuel + 1, depth, cs =>
    match cs with
    | '[' :: rest =>
      if depth == 0 then none
      else do
        let (items, rest) ← items? fuel (depth - 1) (skipLines (rest.length + 1) rest)
        return (.array items, rest)
    | '\x7b' :: rest =>
      if depth == 0 then none
      else do
        let (table, rest) ← inlineTable? fuel (depth - 1) true .empty (skipSpace rest)
        return (table.source, rest)
    | c :: _ =>
      if c == '"' || c == quoteMark then do
        let (s, rest) ← string? cs
        return (.string (some s), rest)
      else scalar? cs
    | [] => none

private def items? : (fuel depth : Nat) → List Char → Option (List Source × List Char)
  | 0, _, _ => none
  | fuel + 1, depth, cs =>
    match cs with
    | ']' :: rest => some ([], rest)
    | _ => do
      let (v, rest) ← value? fuel depth cs
      match skipLines (rest.length + 1) rest with
      | ',' :: more => do
        let (vs, rest) ← items? fuel depth (skipLines (more.length + 1) more)
        return (v :: vs, rest)
      | ']' :: more => return ([v], more)
      | _ => none

private def inlineTable? :
    (fuel depth : Nat) → (first : Bool) → Node → List Char → Option (Node × List Char)
  | 0, _, _, _, _ => none
  | fuel + 1, depth, first, table, cs =>
    match first, cs with
    | true, '\x7d' :: rest => some (table, rest)
    | _, _ => do
      let (path, rest) ← key? (cs.length + 1) cs
      match rest with
      | '=' :: more => do
        let (v, rest) ← value? fuel depth (skipSpace more)
        let name ← path.getLast?
        let table ← table.addValue path.dropLast name v
        match skipSpace rest with
        | ',' :: more => inlineTable? fuel depth false table (skipSpace more)
        | '\x7d' :: more => return (table, more)
        | _ => none
      | _ => none

end

/-! ## Documents -/

private def header? (d : Document) (cs : List Char) : Option (Document × List Char) := do
  match cs with
  | '[' :: '[' :: rest =>
    let (path, rest) ← key? (cs.length + 1) rest
    match rest with
    | ']' :: ']' :: rest => return (← d.openElement? path, ← lineEnd? rest)
    | _ => none
  | '[' :: rest =>
    let (path, rest) ← key? (cs.length + 1) rest
    match rest with
    | ']' :: rest => return (← d.openTable? path, ← lineEnd? rest)
    | _ => none
  | _ => none

private def keyValue? (d : Document) (cs : List Char) : Option (Document × List Char) := do
  let (path, rest) ← key? (cs.length + 1) cs
  match rest with
  | '=' :: more =>
    let (v, rest) ← value? (2 * cs.length + 2) maxNesting (skipSpace more)
    let name ← path.getLast?
    return (← d.addValue? path.dropLast name v, ← lineEnd? rest)
  | _ => none

private def lines? : (fuel : Nat) → Document → List Char → Option Document
  | 0, _, _ => none
  | fuel + 1, d, cs =>
    match skipSpace cs with
    | [] => some d
    | '#' :: rest => do lines? fuel d (← lineEnd? ('#' :: rest))
    | '[' :: rest => do
      let (next, rest) ← header? d ('[' :: rest)
      lines? fuel next rest
    | '\n' :: rest => lines? fuel d rest
    | '\r' :: '\n' :: rest => lines? fuel d rest
    | rest => do
      let (next, rest) ← keyValue? d rest
      lines? fuel next rest

/-- The structure of a TOML document, or nothing if it is malformed. -/
def read? (text : String) : Option Source := do
  let cs := match text.toList with
    | c :: rest => if c.toNat == 0xFEFF then rest else c :: rest
    | [] => []
  let d ← lines? (cs.length + 2) {} cs
  return (← d.close?).source

end Automation.Toml
