import Automation.Json.Access
import Automation.Model.Basic

/-!
# Scripted models

A model that gives listed answers, one after the other, and remembers what it was asked.
-/

namespace Automation.Model

open Json

/-- The answers that are left, and the prompts seen, latest first. -/
structure Script where
  answers : List Answer := []
  seen : List Prompt := []

namespace Script

def answer (p : Prompt) (s : Script) : Answer × Script :=
  match s.answers with
  | [] => (.error (.requestFailed "no replies left"), { s with seen := p :: s.seen })
  | a :: rest => (a, ⟨rest, p :: s.seen⟩)

/-- An answer as JSON: a text, or an object with the reason of a failure and its kind. -/
def answerOf : Value → Answer
  | .string s => .ok s
  | v =>
    let reason := v.textAt "error"
    match v.textAt? "kind" with
    | some "parse" => .error (.parseFailed reason)
    | some "no_model" => .error (.noModel reason)
    | some "no_key" => .error (.missingKey reason)
    | some "config" => .error (.badConfig reason)
    | _ => .error (.requestFailed reason)

/-- The script in an object with a list of replies. -/
def ofJson? : Value → Option Script
  | .object ms => some { answers := (Value.itemsAt (.object ms) "replies").map answerOf }
  | _ => none

end Script

def Prompt.toJson (showSystem : Bool) (p : Prompt) : Value :=
  .record ((if showSystem then [("system", .string p.system)] else []) ++
    [("messages", .array (p.messages.map Message.toJson))])

/-- The prompts seen, in order. -/
def Script.seenJson (showSystem : Bool) (s : Script) : Value :=
  .array (s.seen.reverse.map (Prompt.toJson showSystem))

end Automation.Model
