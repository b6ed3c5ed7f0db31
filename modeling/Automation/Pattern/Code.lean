import Automation.Pattern.Basic

/-!
# Pattern code

A pattern is carried out as a list of instructions. Where to go on is given relative to an
instruction, so that code can be put together by appending it. Of two ways to go on the first one is
preferred.
-/

namespace Automation.Pattern

/-- One instruction. Without a jump, the next one follows. -/
inductive Instr where
  /-- Take a character of the set. -/
  | take (set : CharSet)
  /-- Go on if this holds. -/
  | check (l : Look)
  | jump (offset : Int)
  | split (first second : Int)
  /-- The value starts here. -/
  | openValue
  /-- The value ends here. -/
  | closeValue
  | accept

abbrev Code := List Instr

namespace Code

def optional (greedy : Bool) (body : Code) : Code :=
  let skip : Int := body.length + 1
  (if greedy then .split 1 skip else .split skip 1) :: body

def oneOrMore (greedy : Bool) (body : Code) : Code :=
  let back : Int := -(body.length : Int)
  body ++ [if greedy then .split back 1 else .split 1 back]

/-- The code any number of times; one that always takes characters may be looped directly. -/
def anyNumber (greedy consumes : Bool) (body : Code) : Code :=
  if consumes then
    let skip : Int := body.length + 2
    (if greedy then .split 1 skip else .split skip 1) :: body ++ [.jump (-(body.length + 1 : Int))]
  else optional greedy (oneOrMore greedy body)

def exactly (n : Nat) (body : Code) : Code := (List.replicate n body).flatten

def atMost (greedy : Bool) (body : Code) : Nat → Code
  | 0 => []
  | n + 1 => optional greedy (body ++ atMost greedy body n)

def times (greedy consumes : Bool) (low : Nat) (high : Option Nat) (body : Code) : Code :=
  match high with
  | some high => exactly low body ++ atMost greedy body (high - low)
  | none =>
    match low with
    | 0 => anyNumber greedy consumes body
    | n + 1 => exactly n body ++ oneOrMore greedy body

def ofPattern : Pattern → Code
  | .empty => []
  | .chars set => [.take set]
  | .look l => [.check l]
  | .seq a b => ofPattern a ++ ofPattern b
  | .alt a b =>
    let first := ofPattern a
    let second := ofPattern b
    .split 1 (first.length + 2) :: first ++ .jump (second.length + 1) :: second
  | .times p low high greedy => times greedy p.consumes low high (ofPattern p)
  | .value p => .openValue :: ofPattern p ++ [.closeValue]

end Code

/-- How many instructions the pattern takes at most. -/
def codeSize : Pattern → Nat
  | .empty => 0
  | .chars _ => 1
  | .look _ => 1
  | .seq a b => a.codeSize + b.codeSize
  | .alt a b => a.codeSize + b.codeSize + 2
  | .times p low high _ => (p.codeSize + 2) * max 1 (max low (high.getD 0))
  | .value p => p.codeSize + 2

end Automation.Pattern
