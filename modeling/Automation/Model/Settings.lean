import Automation.Model.Basic
import Automation.Text.Basic

/-!
# Settings of the model

Which provider is asked, for which of its models, and where its key is found.
-/

namespace Automation.Model

open Json

inductive Provider where
  | anthropic
  | openai
  /-- There is no model. -/
  | none
deriving DecidableEq, Repr

namespace Provider

def all : List Provider := [anthropic, openai, none]

def text : Provider → String
  | anthropic => "anthropic"
  | openai => "openai"
  | none => "none"

def decode : Decoder Provider := Decoder.word (all.map fun p => (p.text, p))

end Provider

/-- Settings of the model. -/
structure Settings where
  provider : Provider := .none
  model : String := "claude-sonnet-4-20250514"
  /-- The environment variable that holds the key. -/
  keyVariable : String := "ANTHROPIC_API_KEY"
  /-- Where to find the provider, if not at its usual place. -/
  baseUrl : Option String := Option.none

namespace Settings

def decode : Decoder Settings :=
  Decoder.record ["provider", "model", "api_key_env", "base_url"] fun r => do
    let d : Settings := {}
    return {
      provider := ← r.orElse "provider" Provider.decode d.provider
      model := ← r.orElse "model" Decoder.string d.model
      keyVariable := ← r.orElse "api_key_env" Decoder.string d.keyVariable
      baseUrl := ← r.maybe "base_url" Decoder.string }

def toJson (s : Settings) : Value :=
  .record [("provider", .string s.provider.text), ("model", .string s.model),
    ("api_key_env", .string s.keyVariable), ("base_url", .text? s.baseUrl)]

/-- The key, if a provider is set. A provider without a key, or with a blank one, is an error. -/
def key (s : Settings) (lookup : String → Option String) : Except Error (Option String) :=
  if s.provider = .none then .ok Option.none
  else match (lookup s.keyVariable).filter (!Text.isBlankText ·) with
    | some k => .ok (some k)
    | Option.none => .error (.missingKey s.provider.text)

end Settings

end Automation.Model
