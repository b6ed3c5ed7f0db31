import Automation.Model.Basic

/-!
# History

The latest turns of a conversation, oldest first, up to a limit of at least one.
-/

namespace Automation

open Model (Message)

/-- The latest turns of a conversation. -/
structure History where
  limit : Nat
  turns : List Message := []

namespace History

/-- An empty history of at most so many turns, but at least one. -/
def empty (limit : Nat) : History := { limit := max limit 1 }

/-- Adds a turn; the oldest one makes room for it. -/
def push (h : History) (m : Message) : History :=
  { h with turns := (if h.turns.length = h.limit then h.turns.drop 1 else h.turns) ++ [m] }

def pushUser (h : History) (text : String) : History := h.push { role := .user, content := text }

def pushAssistant (h : History) (text : String) : History :=
  h.push { role := .assistant, content := text }

def recent (h : History) (n : Nat) : List Message := h.turns.drop (h.turns.length - n)

def clear (h : History) : History := { h with turns := [] }

end History

end Automation
