import Automation.Pattern.Code

/-!
# Search for a pattern

All ways to match are followed at once, character by character, in the order of preference. The
match found starts as early as any, and among those it is the preferred one. Matches are then sought
behind the previous one, and an empty match does not stand at the end of the match before it.
-/

namespace Automation.Pattern

/-- What is known of a match: where it starts, and where its value starts and ends. Positions count
characters. -/
structure Marks where
  start : Nat
  valueStart : Option Nat := none
  valueEnd : Option Nat := none
deriving DecidableEq, Repr

structure Match where
  marks : Marks
  stop : Nat
deriving DecidableEq, Repr

/-- One way to match so far: the instruction that comes next. -/
structure Thread where
  at_ : Nat
  marks : Marks

structure Place where
  position : Nat
  before : Option Char
  behind : Option Char

/-- The instruction so far away. -/
def target (at_ : Nat) (offset : Int) : Nat := ((at_ : Int) + offset).toNat

/-- Follows the threads on the stack up to instructions that take a character or accept; those go
behind the ones found before. An instruction is followed once. -/
def follow (code : Array Instr) (here : Place) :
    (fuel : Nat) → List Thread → Array Bool → Array Thread → Array Bool × Array Thread
  | 0, _, seen, found => (seen, found)
  | _, [], seen, found => (seen, found)
  | fuel + 1, t :: stack, seen, found =>
    if seen.getD t.at_ true then follow code here fuel stack seen found
    else
      let seen := seen.setIfInBounds t.at_ true
      match code[t.at_]? with
      | none => follow code here fuel stack seen found
      | some i =>
        match i with
        | .take _ => follow code here fuel stack seen (found.push t)
        | .accept => follow code here fuel stack seen (found.push t)
        | .check l =>
          if l.holds here.before here.behind then
            follow code here fuel ({ t with at_ := t.at_ + 1 } :: stack) seen found
          else follow code here fuel stack seen found
        | .jump offset =>
          follow code here fuel ({ t with at_ := target t.at_ offset } :: stack) seen found
        | .split first second =>
          follow code here fuel
            ({ t with at_ := target t.at_ first } :: { t with at_ := target t.at_ second } :: stack)
            seen found
        | .openValue =>
          let marks := { t.marks with valueStart := some here.position }
          follow code here fuel (⟨t.at_ + 1, marks⟩ :: stack) seen found
        | .closeValue =>
          let marks := { t.marks with valueEnd := some here.position }
          follow code here fuel (⟨t.at_ + 1, marks⟩ :: stack) seen found

/-- Follows the threads, each with what it leads to, in their order. -/
def followAll (code : Array Instr) (here : Place) (threads : List Thread) : List Thread :=
  (follow code here (2 * code.size + threads.length + 1) threads
    (Array.replicate code.size false) #[]).2.toList

/-- The threads up to the first that accepts, and its match. -/
def untilAccept (code : Array Instr) (position : Nat) : List Thread → List Thread × Option Match
  | [] => ([], none)
  | t :: rest =>
    match code[t.at_]? with
    | some .accept => ([], some ⟨t.marks, position⟩)
    | _ =>
      let (before, found) := untilAccept code position rest
      (t :: before, found)

def advance (code : Array Instr) (c : Char) (threads : List Thread) : List Thread :=
  threads.filterMap fun (t : Thread) =>
    match code[t.at_]? with
    | some (Instr.take set) => if set.has c then some { t with at_ := t.at_ + 1 } else none
    | _ => none

/-- Goes on from the threads that stand at a position; a new one starts there as long as nothing has
been found. -/
def run (code : Array Instr) (position : Nat) (before : Option Char) (threads : List Thread)
    (best : Option Match) : List Char → Option Match
  | [] =>
    let here : Place := ⟨position, before, none⟩
    let started := if best.isNone then threads ++ [⟨0, { start := position }⟩] else threads
    (untilAccept code position (followAll code here started)).2 <|> best
  | c :: rest =>
    let here : Place := ⟨position, before, some c⟩
    let started := if best.isNone then threads ++ [⟨0, { start := position }⟩] else threads
    if started.isEmpty then best
    else
      let (live, found) := untilAccept code position (followAll code here started)
      run code (position + 1) (some c) (advance code c live) (found <|> best) rest

/-- A text from some position on. -/
structure Cursor where
  position : Nat
  before : Option Char
  rest : List Char

/-- The cursor so many characters on. -/
def Cursor.skip (c : Cursor) : Nat → Cursor
  | 0 => c
  | n + 1 =>
    match c.rest with
    | [] => c
    | d :: rest => Cursor.skip ⟨c.position + 1, some d, rest⟩ n

/-- The first match at or behind the cursor. -/
def firstMatch (code : Array Instr) (c : Cursor) : Option Match :=
  run code c.position c.before [] none c.rest

/-- All matches from the cursor on; `fuel` bounds how many are sought. -/
def matchesFrom (code : Array Instr) (fuel : Nat) (last : Option Nat) (c : Cursor) : List Match :=
  match fuel with
  | 0 => []
  | fuel + 1 =>
    match firstMatch code c with
    | none => []
    | some m =>
      if m.marks.start == m.stop && last == some m.stop then
        -- an empty match right behind the previous one is passed over
        if c.rest.isEmpty then [] else matchesFrom code fuel last (c.skip 1)
      else m :: matchesFrom code fuel (some m.stop) (c.skip (m.stop - c.position))

def instructions (p : Pattern) : Array Instr := (Code.ofPattern p ++ [Instr.accept]).toArray

def matchesIn (code : Array Instr) (cs : List Char) : List Match :=
  matchesFrom code (2 * cs.length + 2) none ⟨0, none, cs⟩

/-- The characters of a match that are its value: the marked part, or all. -/
def Match.value (m : Match) (cs : List Char) : List Char :=
  match m.marks.valueStart, m.marks.valueEnd with
  | some a, some b => (cs.drop a).take (b - a)
  | _, _ => (cs.drop m.marks.start).take (m.stop - m.marks.start)

end Automation.Pattern
