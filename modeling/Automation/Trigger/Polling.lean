/-!
# The search for due triggers

At most one search is meant to go on at a time. A search makes a pass, waits, and begins again as
long as the service says that it should. It is ended by taking that word back and by a call; a call
that finds no waiting search is kept for the next one that waits.
-/

namespace Automation

inductive SearchPhase where
  /-- It has not taken a step. -/
  | started
  | passing
  | waiting
  /-- It was waiting when it was called. -/
  | called
  | ended
deriving DecidableEq, Repr

/-- The searches, by number, and what they are told. -/
structure Polling where
  /-- Whether a search should go on. -/
  running : Bool := false
  /-- Whether a call is kept. -/
  permit : Bool := false
  phases : List SearchPhase := []
  /-- The search whose end is waited for when it is stopped. -/
  latest : Option Nat := none
deriving DecidableEq, Repr

namespace Polling

def set (p : Polling) (n : Nat) (phase : SearchPhase) : Polling :=
  { p with phases := p.phases.set n phase }

def hasEnded (p : Polling) (n : Nat) : Bool := (p.phases[n]?).getD .ended = .ended

def start? (p : Polling) : Option (Nat × Polling) :=
  if p.running then none
  else
    let n := p.phases.length
    some (n, { p with running := true, phases := p.phases ++ [.started], latest := some n })

/-- A search looks whether it should go on; if so it begins a pass, otherwise it ends. -/
def observe (p : Polling) (n : Nat) : Bool × Polling :=
  if p.running then (true, p.set n .passing) else (false, p.set n .ended)

/-- A search is through with its pass: a call that was kept ends it, otherwise it waits. -/
def rest (p : Polling) (n : Nat) : Bool × Polling :=
  if p.permit then (true, { p with permit := false }.set n .ended) else (false, p.set n .waiting)

/-- Calls the first search that waits; without one the call is kept. -/
def call (p : Polling) : Polling :=
  match p.phases.findIdx? (· = .waiting) with
  | some n => p.set n .called
  | none => { p with permit := true }

/-- Stops the search: what it is told, and the search whose end is waited for. -/
def stop (p : Polling) : Option Nat × Polling :=
  if p.running then (p.latest, { ({ p with running := false }).call with latest := none })
  else (none, p)

end Polling

end Automation
