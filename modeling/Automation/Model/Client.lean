import Automation.Http.Request
import Automation.Http.Status
import Automation.Json.Fault
import Automation.Model.Basic

/-!
# Models behind an interface

A client asks a model over HTTP. There are two wire formats: one takes the instructions as a field
of its own, the other as the first message.
-/

namespace Automation.Model

open Json

inductive WireFormat where
  | anthropic
  | openai
deriving DecidableEq, Repr

namespace WireFormat

def text : WireFormat → String
  | anthropic => "anthropic"
  | openai => "openai"

def usualBase : WireFormat → String
  | anthropic => "https://api.anthropic.com"
  | openai => "https://api.openai.com/v1"

/-- Where below the base requests go. -/
def path : WireFormat → String
  | anthropic => "/v1/messages"
  | openai => "/chat/completions"

end WireFormat

/-- A conversation to be completed. -/
structure ChatRequest where
  /-- Empty for the client's own model. -/
  model : String := ""
  messages : List Message
  temperature : Option Float := none
  maxTokens : Option Nat := none

/-- A prompt as a conversation, to be completed without variation. -/
def ChatRequest.ofPrompt (p : Prompt) : ChatRequest where
  messages := { role := .system, content := p.system } :: p.messages
  temperature := some 0.0

structure Client where
  format : WireFormat
  key : String
  base : String
  model : String
  maxTokens : Nat := 1024

namespace Client

/-- A client needs a key. -/
def create (format : WireFormat) (key model base : String) (maxTokens : Nat := 1024) :
    Except Error Client :=
  if key.isEmpty then .error (.missingKey format.text)
  else .ok { format, key, base, model, maxTokens }

def headers (c : Client) : Except Error (List (String × String)) :=
  let credentials := match c.format with
    | .anthropic => [("x-api-key", c.key), ("anthropic-version", "2023-06-01")]
    | .openai => [("authorization", "Bearer " ++ c.key)]
  let what := match c.format with
    | .anthropic => "invalid API key header: "
    | .openai => "invalid authorization header: "
  if Http.isHeaderValue c.key then .ok (credentials ++ [("content-type", "application/json")])
  else .error (.requestFailed (what ++ Http.badHeaderValue))

def body (c : Client) (r : ChatRequest) : Value :=
  let separate := c.format = .anthropic
  let messages := if separate then r.messages.filter (·.role ≠ .system) else r.messages
  let instructions := (r.messages.filter (·.role = .system)).map (·.content)
  let system := if separate && !instructions.isEmpty then
      [("system", Value.string (String.intercalate "\n" instructions))]
    else []
  let temperature := match r.temperature with
    | some t => [("temperature", Value.float t)]
    | none => []
  .record ([("model", .string (if r.model.isEmpty then c.model else r.model)),
    ("max_tokens", .nat (r.maxTokens.getD c.maxTokens)),
    ("messages", .array (messages.map Message.toJson))] ++ system ++ temperature)

def request (c : Client) (r : ChatRequest) : Except Error Http.Request := do
  let headers ← c.headers
  match Http.Url.ofText (c.base ++ c.format.path) with
  | .error _ => .error (.requestFailed Http.SendError.noUrl.message)
  | .ok url => .ok { method := "POST", url, headers, body := some (.inr (c.body r)) }

def answerOf (format : WireFormat) (v : Value) : Answer :=
  match format with
  | .anthropic =>
    match v.valueAt "content" with
    | .array blocks =>
      let texts := (blocks.filter fun b => b.textAt? "type" == some "text").filterMap
        (·.textAt? "text")
      .ok (String.join texts)
    | _ => .error (.parseFailed "missing \x60content\x60 array in response")
  | .openai =>
    match ((v.itemsAt "choices").head?.getD .null).valueAt "message" with
    | .null => .error (.parseFailed "missing \x60choices[0].message\x60 in response")
    | message => .ok (message.textAt "content")

def readReply (format : WireFormat) (r : Http.Reply) : Answer :=
  let text := Text.ofUtf8Lossy r.body
  if !Http.isSuccess r.status then
    .error (.requestFailed ("API returned " ++ Http.statusLine r.status ++ ": " ++ text))
  else match Value.read? text with
    | some v => answerOf format v
    | none =>
      let reason := ((Fault.ofText? text).map Fault.message).getD ""
      .error (.parseFailed ("invalid JSON response: " ++ reason))

/-- Asks for the completion of a conversation. -/
def chat (peer : Http.Peer) (c : Client) (r : ChatRequest) : Answer := do
  let request ← c.request r
  match peer request with
  | .ok reply => readReply c.format reply
  | .error e => .error (.requestFailed e.message)

end Client

end Automation.Model
