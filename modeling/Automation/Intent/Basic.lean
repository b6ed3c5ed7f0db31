import Automation.Intent.Category

/-!
# Intents

What a message asks for.
-/

namespace Automation

open Json

inductive IntentSource where
  | model
  | lexicon
deriving DecidableEq, Repr

def IntentSource.text : IntentSource → String
  | model => "llm"
  | lexicon => "fallback"

structure Intent where
  isAutomation : Bool := false
  category : Category := .other
  /-- Between 0 and 1. -/
  confidence : Float := 0
  extracted : Entries String := []
  missing : List String := []
  /-- The message. -/
  text : String := ""
  complexity : Complexity := .simple
  source : IntentSource := .lexicon
  /-- Why the model was not relied on. -/
  fallbackReason : Option String := none

namespace Intent

def conversational (text : String) : Intent := { text }

/-- The written form, with the confidence written by `confidence`. -/
def toJsonWith (confidence : Float → Value) (i : Intent) : Value :=
  .record [("is_automation", .bool i.isAutomation), ("category", .string i.category.text),
    ("confidence", confidence i.confidence), ("extracted_parameters", .stringMap i.extracted),
    ("missing_parameters", .strings i.missing), ("text", .string i.text),
    ("complexity", .string i.complexity.text), ("source", .string i.source.text),
    ("fallback_reason", .text? i.fallbackReason)]

end Intent

end Automation
