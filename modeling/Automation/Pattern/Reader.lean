import Automation.Pattern.Code

/-!
# The text of patterns

Literal characters, `.`, classes in brackets and behind a backslash, groups, alternatives, anchors
and repetitions. Flags in `(?i)` hold to the end of the group they stand in, those in `(?i:…)` for
that group. A group named `value` marks the value of a match. There are no references to groups and
no conditions on what lies around a match except word bounds and the ends of lines and of the text.
-/

namespace Automation.Pattern

/-- How the characters of a pattern are to be read. -/
structure Flags where
  ignoreCase : Bool := false
  multiLine : Bool := false
  dotAll : Bool := false
  swapGreed : Bool := false
  wide : Bool := true
  spaced : Bool := false
  carriage : Bool := false

/-- What is read so far of a group: the finished alternatives and the parts of the one being read,
both in reverse. A part without a pattern is a setting of flags, which cannot be repeated. -/
structure Progress where
  flags : Flags
  alternatives : List Pattern := []
  parts : List (Option Pattern) := []

namespace Progress

def current (s : Progress) : Pattern := ofSeq (s.parts.reverse.filterMap id)

def finish (s : Progress) : Pattern := ofAlternatives (s.current :: s.alternatives).reverse

def push (s : Progress) (p : Pattern) : Progress := { s with parts := some p :: s.parts }

end Progress

/-! ## Classes -/

private def isMeta (c : Char) : Bool := "\\.+*?()|[]\x7b\x7d^$#&-~".toList.contains c

private def isEscapable (c : Char) : Bool :=
  isMeta c || (c.toNat < 0x80 && !c.isAlpha && !c.isDigit && c != '<' && c != '>')

private def hexValue? (c : Char) : Option Nat :=
  if c.isDigit then some (c.toNat - 48)
  else if 'a' ≤ c && c ≤ 'f' then some (c.toNat - 87)
  else if 'A' ≤ c && c ≤ 'F' then some (c.toNat - 55)
  else none

private def hexNumber? (ds : List Char) : Option Nat :=
  if ds.isEmpty then none
  else ds.foldlM (fun n d => (hexValue? d).map (n * 16 + ·)) 0

private def charOf? (n : Nat) : Option Char :=
  if h : n.isValidChar then some (Char.ofNatAux n h) else none

/-- A character given by its number: so many hexadecimal digits, or any number of them in braces. -/
private def numbered? (width : Nat) (cs : List Char) : Option (Char × List Char) :=
  match cs with
  | '\x7b' :: rest => do
    let ds := rest.takeWhile (· != '\x7d')
    match rest.drop ds.length with
    | _ :: more => return (← charOf? (← hexNumber? ds), more)
    | [] => none
  | _ =>
    if (cs.take width).length == width then do
      return (← charOf? (← hexNumber? (cs.take width)), cs.drop width)
    else none

/-- A literal character behind a backslash. -/
private def escaped? : List Char → Option (Char × List Char)
  | 'a' :: rest => some ('\x07', rest)
  | 'f' :: rest => some ('\x0c', rest)
  | 't' :: rest => some ('\t', rest)
  | 'n' :: rest => some ('\n', rest)
  | 'r' :: rest => some ('\r', rest)
  | 'v' :: rest => some ('\x0b', rest)
  | 'x' :: rest => numbered? 2 rest
  | 'u' :: rest => numbered? 4 rest
  | 'U' :: rest => numbered? 8 rest
  | c :: rest => if isEscapable c then some (c, rest) else none
  | [] => none

private def perlClass? (flags : Flags) (c : Char) : Option CharSet :=
  let narrow (s : CharSet) : CharSet := if flags.wide then s else .both s .ascii
  let negated (s : CharSet) : Option CharSet := if flags.wide then some (.complement s) else none
  if c == 'w' then some (narrow .word)
  else if c == 'd' then some (narrow .digit)
  else if c == 's' then some (narrow .blank)
  else if c == 'W' then negated .word
  else if c == 'D' then negated .digit
  else if c == 'S' then negated .blank
  else none

private def namedClass? (name : String) : Option CharSet :=
  let span (a b : Char) : CharSet := .range a.toNat b.toNat
  let lower := span 'a' 'z'
  let upper := span 'A' 'Z'
  let decimal := span '0' '9'
  let alpha := CharSet.union lower upper
  let alnum := CharSet.union alpha decimal
  [("alnum", alnum), ("alpha", alpha), ("ascii", .ascii),
    ("blank", .union (.one '\t') (.one ' ')),
    ("cntrl", .union (.range 0 0x1F) (.range 0x7F 0x7F)), ("digit", decimal),
    ("graph", span '!' '~'), ("lower", lower), ("print", span ' ' '~'),
    ("punct", .ofList [span '!' '/', span ':' '@', span '[' '\x60', span '\x7b' '~']),
    ("space", .union (.range 9 13) (.one ' ')), ("upper", upper),
    ("word", .union alnum (.one '_')),
    ("xdigit", .ofList [decimal, span 'a' 'f', span 'A' 'F'])].lookup name

/-- A named class in brackets and colons, behind its opening bracket. -/
private def asciiClass? (cs : List Char) : Option (CharSet × List Char) :=
  match cs with
  | ':' :: rest => do
    let (negated, rest) := match rest with
      | '^' :: more => (true, more)
      | _ => (false, rest)
    let name := rest.takeWhile (· != ':')
    match rest.drop name.length with
    | ':' :: ']' :: more =>
      let s ← namedClass? (String.ofList name)
      return (if negated then .complement s else s, more)
    | _ => none
  | _ => none

private def skipSpaced (flags : Flags) : List Char → List Char
  | cs => if flags.spaced then go cs.length cs else cs
where
  go : Nat → List Char → List Char
    | 0, cs => cs
    | fuel + 1, cs =>
      match cs with
      | '#' :: rest => go fuel (rest.dropWhile (· != '\n'))
      | c :: rest => if Text.isBlank c then go fuel rest else cs
      | [] => []

/-- One end of a range in brackets. -/
private def classChar? (cs : List Char) : Option (Char × List Char) :=
  match cs with
  | '\\' :: rest => escaped? rest
  | c :: rest => some (c, rest)
  | [] => none

/-- What is read so far in brackets: whether the class is negated, the sets to be combined so far
with how, and the union being read. -/
private structure ClassProgress where
  negated : Bool
  left : Option (Char × CharSet) := none
  items : CharSet := .none

private def ClassProgress.combined (s : ClassProgress) : CharSet :=
  match s.left with
  | none => s.items
  | some (op, a) =>
    if op == '&' then .both a s.items
    else if op == '-' then .both a (.complement s.items)
    else .union (.both a (.complement s.items)) (.both s.items (.complement a))

private def ClassProgress.finish (flags : Flags) (s : ClassProgress) : Option CharSet :=
  let set := if flags.ignoreCase then .anyCase s.combined else s.combined
  if s.negated then (if flags.wide then some (.complement set) else none) else some set

/-- Opens brackets: a caret negates, hyphens and then a closing bracket stand for themselves. -/
private def openClass (flags : Flags) (cs : List Char) : ClassProgress × List Char :=
  let cs := skipSpaced flags cs
  let (negated, cs) := match cs with
    | '^' :: rest => (true, skipSpaced flags rest)
    | _ => (false, cs)
  let hyphens := cs.takeWhile (· == '-')
  let cs := skipSpaced flags (cs.drop hyphens.length)
  let items := if hyphens.isEmpty then CharSet.none else .one '-'
  match cs with
  | ']' :: rest =>
    if hyphens.isEmpty then (⟨negated, none, .one ']'⟩, rest) else (⟨negated, none, items⟩, cs)
  | _ => (⟨negated, none, items⟩, cs)

/-- A class up to its closing bracket. -/
private def scanClass (flags : Flags) :
    (fuel : Nat) → List ClassProgress → List Char → Option (CharSet × List Char)
  | 0, _, _ => none
  | _, [], _ => none
  | fuel + 1, s :: outer, cs =>
    let add (set : CharSet) (rest : List Char) : Option (CharSet × List Char) :=
      scanClass flags fuel ({ s with items := .union s.items set } :: outer) rest
    match skipSpaced flags cs with
    | [] => none
    | ']' :: rest => do
      let set ← s.finish flags
      match outer with
      | [] => return (set, rest)
      | t :: outer => scanClass flags fuel ({ t with items := .union t.items set } :: outer) rest
    | '[' :: rest =>
      match asciiClass? rest with
      | some (set, more) => add set more
      | none =>
        let (inner, more) := openClass flags rest
        scanClass flags fuel (inner :: s :: outer) more
    | a :: rest =>
      let operator := match rest with
        | b :: _ => (a == '&' || a == '-' || a == '~') && a == b
        | [] => false
      if operator then
        scanClass flags fuel ({ s with left := some (a, s.combined), items := .none } :: outer)
          (rest.drop 1)
      else
        let perl := match a, rest with
          | '\\', c :: more => (perlClass? flags c).map fun set => (set, more)
          | _, _ => none
        match perl with
        | some (set, more) => add set more
        | none =>
          match classChar? (a :: rest) with
          | none => none
          | some (low, more) =>
            match skipSpaced flags more with
            | '-' :: behind =>
              match skipSpaced flags behind with
              | ']' :: _ => add (.one low) more
              | '-' :: _ => add (.one low) more
              | high =>
                match classChar? high with
                | some (high, more) =>
                  if low.toNat ≤ high.toNat then add (.range low.toNat high.toNat) more else none
                | none => none
            | _ => add (.one low) more

/-! ## Groups and repetitions -/

private def counts? (cs : List Char) : Option (Nat × Option Nat × List Char) := do
  let number? (cs : List Char) : Option (Nat × List Char) :=
    let cs := cs.dropWhile Text.isBlank
    let ds := cs.takeWhile Char.isDigit
    if ds.isEmpty || Text.natOfDigits ds ≥ UInt32.size then none
    else some (Text.natOfDigits ds, (cs.drop ds.length).dropWhile Text.isBlank)
  let (low, cs) ← number? cs
  match cs with
  | '\x7d' :: rest => return (low, some low, rest)
  | ',' :: rest =>
    match rest.dropWhile Text.isBlank with
    | '\x7d' :: more => return (low, none, more)
    | more =>
      let (high, more) ← number? more
      match more with
      | '\x7d' :: more => if low ≤ high then return (low, some high, more) else none
      | _ => none
  | _ => none

/-- The pattern with the repetition that the characters begin with. -/
private def repeated? (flags : Flags) (s : Progress) (low : Nat) (high : Option Nat)
    (cs : List Char) : Option (Progress × List Char) :=
  match s.parts with
  | some p :: parts =>
    let (lazy_, cs) := match cs with
      | '?' :: rest => (true, rest)
      | _ => (false, cs)
    some ({ s with parts := some (.times p low high (lazy_ == flags.swapGreed)) :: parts }, cs)
  | _ => none

private def setFlag? (flags : Flags) (on : Bool) (c : Char) : Option Flags :=
  if c == 'i' then some { flags with ignoreCase := on }
  else if c == 'm' then some { flags with multiLine := on }
  else if c == 's' then some { flags with dotAll := on }
  else if c == 'U' then some { flags with swapGreed := on }
  else if c == 'u' then some { flags with wide := on }
  else if c == 'x' then some { flags with spaced := on }
  else if c == 'R' then some { flags with carriage := on }
  else none

/-- Flags up to a closing parenthesis or colon, each at most once. -/
private def scanFlags (flags : Flags) (on : Bool) (seen : List Char) :
    List Char → Option (Flags × Char × List Char)
  | [] => none
  | c :: rest =>
    if c == ')' || c == ':' then
      if (!on && seen.head? == some '-') || (c == ')' && seen.isEmpty) then none
      else some (flags, c, rest)
    else if c == '-' then if on then scanFlags flags false ('-' :: seen) rest else none
    else if seen.contains c then none
    else do scanFlags (← setFlag? flags on c) on (c :: seen) rest

private def isNameStart (c : Char) : Bool :=
  c == '_' || (Text.isAlphanumeric c && !Text.isDecimalDigit c)

private def isNameChar (c : Char) : Bool :=
  c == '_' || c == '.' || c == '[' || c == ']' || Text.isAlphanumeric c

/-- The name of a group, up to its closing angle. -/
private def groupName? (cs : List Char) : Option (String × List Char) :=
  let name := cs.takeWhile (· != '>')
  match cs.drop name.length, name with
  | _ :: rest, first :: others =>
    if isNameStart first && others.all isNameChar then some (String.ofList name, rest) else none
  | _, _ => none

/-- What a parenthesis opens. -/
private inductive Opening where
  /-- A group, by its name if it has one, with its flags. -/
  | group (name : Option String) (flags : Flags)
  /-- Flags for what follows. -/
  | flags (flags : Flags)

private def opening? (flags : Flags) (cs : List Char) : Option (Opening × List Char) :=
  match cs with
  | '?' :: 'P' :: '<' :: rest => named rest
  | '?' :: '<' :: rest => named rest
  | '?' :: rest => do
    let (inner, closing, more) ← scanFlags flags true [] rest
    return (if closing == ')' then .flags inner else .group none inner, more)
  | _ => some (.group none flags, cs)
where
  named (rest : List Char) : Option (Opening × List Char) := do
    let (name, more) ← groupName? rest
    return (.group (some name) flags, more)

private def literal (flags : Flags) (c : Char) : Pattern :=
  .chars (if flags.ignoreCase then .variants c else .one c)

/-- Any character but those that end a line. -/
private def dot? (flags : Flags) : Option Pattern :=
  if !flags.wide then none
  else if flags.dotAll then some (.chars (.complement .none))
  else if flags.carriage then some (.chars (.complement (.union (.one '\n') (.one '\r'))))
  else some (.chars (.complement (.one '\n')))

/-- The pattern behind a backslash. -/
private def backslash? (flags : Flags) (cs : List Char) : Option (Pattern × List Char) :=
  match cs with
  | 'A' :: rest => some (.look .textStart, rest)
  | 'z' :: rest => some (.look .textEnd, rest)
  | 'b' :: rest => some (.look (if flags.wide then .wordBound else .asciiWordBound), rest)
  | 'B' :: rest => some (.look (if flags.wide then .notWordBound else .notAsciiWordBound), rest)
  | c :: rest =>
    match perlClass? flags c with
    | some set => some (.chars set, rest)
    | none => (escaped? cs).map fun (c, rest) => (literal flags c, rest)
  | [] => none

/-- An open group: what is read of it, and its name. -/
private structure Open where
  progress : Progress
  name : Option String := none

/-- Reads on in the innermost open group; `names` are taken. -/
private def scan : (fuel : Nat) → List Open → (names : List String) → List Char → Option Pattern
  | 0, _, _, _ => none
  | _, [], _, _ => none
  | fuel + 1, g :: outer, names, cs =>
    let s := g.progress
    let flags := s.flags
    let goOn (s : Progress) (rest : List Char) : Option Pattern :=
      scan fuel ({ g with progress := s } :: outer) names rest
    let again (low : Nat) (high : Option Nat) (rest : List Char) : Option Pattern :=
      match repeated? flags s low high rest with
      | some (s, rest) => goOn s rest
      | none => none
    match skipSpaced flags cs with
    | [] => if outer.isEmpty then some s.finish else none
    | '|' :: rest => goOn { s with alternatives := s.current :: s.alternatives, parts := [] } rest
    | ')' :: rest =>
      match outer with
      | [] => none
      | h :: outer =>
        let body := s.finish
        let p := if g.name == some "value" then .value body else body
        scan fuel ({ h with progress := h.progress.push p } :: outer) names rest
    | '(' :: rest =>
      match opening? flags rest with
      | none => none
      | some (.flags flags, rest) => goOn { s with flags := flags, parts := none :: s.parts } rest
      | some (.group name flags, rest) =>
        if name.any names.contains then none
        else scan fuel ({ progress := { flags }, name } :: g :: outer) (name.toList ++ names) rest
    | '*' :: rest => again 0 none rest
    | '+' :: rest => again 1 none rest
    | '?' :: rest => again 0 (some 1) rest
    | '\x7b' :: rest =>
      match counts? rest with
      | some (low, high, rest) => again low high rest
      | none => none
    | '[' :: rest =>
      let (start, more) := openClass flags rest
      match scanClass flags (rest.length + 1) [start] more with
      | some (set, rest) => goOn (s.push (.chars set)) rest
      | none => none
    | '.' :: rest =>
      match dot? flags with
      | some p => goOn (s.push p) rest
      | none => none
    | '^' :: rest => goOn (s.push (.look (if flags.multiLine then .lineStart else .textStart))) rest
    | '$' :: rest => goOn (s.push (.look (if flags.multiLine then .lineEnd else .textEnd))) rest
    | '\\' :: rest =>
      match backslash? flags rest with
      | some (p, rest) => goOn (s.push p) rest
      | none => none
    | c :: rest => goOn (s.push (literal flags c)) rest

def maxCodeSize : Nat := 200000

def ofText? (text : String) : Option Pattern :=
  (scan (text.length + 1) [{ progress := { flags := {} } }] [] text.toList).filter fun p =>
    p.codeSize ≤ maxCodeSize

end Automation.Pattern
