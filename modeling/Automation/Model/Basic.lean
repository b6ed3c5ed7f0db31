import Automation.Json.Decode
import Automation.Process

/-!
# Language models

A model completes a conversation under instructions. Nothing is known of it but that it answers with
a text or fails.
-/

namespace Automation.Model

open Json

inductive Role where
  | system
  | user
  | assistant
deriving DecidableEq, Repr

def Role.text : Role → String
  | system => "system"
  | user => "user"
  | assistant => "assistant"

def Role.all : List Role := [system, user, assistant]

def Role.ofText? (s : String) : Option Role := all.find? (·.text == s)

structure Message where
  role : Role
  content : String := ""
deriving DecidableEq, Repr

structure Prompt where
  system : String
  messages : List Message
deriving DecidableEq, Repr

inductive Error where
  | requestFailed (reason : String)
  | parseFailed (reason : String)
  | noModel (provider : String)
  | missingKey (provider : String)
  | badConfig (reason : String)
deriving DecidableEq, Repr

def Error.message : Error → String
  | requestFailed r => s!"llm request failed: {r}"
  | parseFailed r => s!"llm response parse error: {r}"
  | noModel p => s!"no model configured for provider: {p}"
  | missingKey p => s!"missing api key for provider: {p}"
  | badConfig r => s!"config error: {r}"

abbrev Answer := Except Error String

/-- A computation that may ask a model. -/
abbrev Asking := Process Prompt fun _ => Answer

def Asking.ask (p : Prompt) : Asking Answer := Process.ask p Process.done

def Message.decode : Decoder Message :=
  Decoder.record ["role", "content"] fun r => do
    return {
      role := ← r.required "role" (Decoder.word (Role.all.map fun x => (x.text, x)))
      content := ← r.orElse "content" Decoder.string "" }

def Message.toJson (m : Message) : Value :=
  .record [("role", .string m.role.text), ("content", .string m.content)]

end Automation.Model
