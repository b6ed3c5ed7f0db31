import Automation.Run.Record

/-!
# Responses

Every request to the service is answered with a response: a status, a text for the user and what
belongs to it. Parts that are not there are left out of the written form.
-/

namespace Automation

open Json

inductive ResponseStatus where
  | ok
  | executed
  | scheduled
  | needsInput
  | awaitingSelection
  | conversation
  | noMatch
  | cancelled
  | busy
  | error
deriving DecidableEq, Repr

/-- A template that the user may choose. -/
structure Offer where
  /-- The number to reply with, counted from 1. -/
  index : Nat
  templateId : String
  name : String
  description : String
  score : Float

structure Response where
  status : ResponseStatus
  message : String
  workflowId : Option Id := none
  result : Option RunResult := none
  missing : List String := []
  offers : List Offer := []
  triggerId : Option Id := none
  data : Option Value := none

namespace ResponseStatus

def all : List ResponseStatus :=
  [ok, executed, scheduled, needsInput, awaitingSelection, conversation, noMatch, cancelled, busy,
    error]

def text : ResponseStatus → String
  | ok => "ok"
  | executed => "executed"
  | scheduled => "scheduled"
  | needsInput => "needs_input"
  | awaitingSelection => "awaiting_selection"
  | conversation => "conversation"
  | noMatch => "no_match"
  | cancelled => "cancelled"
  | busy => "busy"
  | error => "error"

def isSuccess : ResponseStatus → Bool
  | ok | executed | scheduled | conversation | cancelled => true
  | needsInput | awaitingSelection | noMatch | busy | error => false

def decode : Decoder ResponseStatus := Decoder.word (all.map fun s => (s.text, s))

end ResponseStatus

namespace Offer

def decode : Decoder Offer :=
  Decoder.record ["index", "template_id", "name", "description", "score"] fun r => do
    return {
      index := ← r.required "index" (Decoder.natBits 64)
      templateId := ← r.required "template_id" Decoder.string
      name := ← r.required "name" Decoder.string
      description := ← r.required "description" Decoder.string
      score := ← r.required "score" Decoder.float }

def toJson (o : Offer) : Value :=
  .record [("index", .nat o.index), ("template_id", .string o.templateId), ("name", .string o.name),
    ("description", .string o.description), ("score", .float o.score)]

end Offer

namespace Response

def ok (message : String) : Response := { status := .ok, message }

def error (message : String) : Response := { status := .error, message }

def decode : Decoder Response :=
  Decoder.record
    ["status", "message", "workflow_id", "execution_result", "missing_params", "options",
      "trigger_id", "data"] fun r => do
    return {
      status := ← r.required "status" ResponseStatus.decode
      message := ← r.required "message" Decoder.string
      workflowId := ← r.maybe "workflow_id" Id.decode
      result := ← r.maybe "execution_result" RunResult.decode
      missing := ← r.orElse "missing_params" (Decoder.list Decoder.string) []
      offers := ← r.orElse "options" (Decoder.list Offer.decode) []
      triggerId := ← r.maybe "trigger_id" Id.decode
      data := ← r.maybe "data" Decoder.value }

/-- A member under the name, if there is a value for it. -/
private def present (name : String) : Option Value → Members
  | some v => [(name, v)]
  | none => []

/-- A member under the name, if the list is not empty. -/
private def listed (name : String) : List Value → Members
  | [] => []
  | vs => [(name, .array vs)]

/-- The written form, with the offers written by `offer`. -/
def toJsonWith (offer : Offer → Value) (r : Response) : Value :=
  .record ([("status", .string r.status.text), ("message", .string r.message)] ++
    present "workflow_id" (r.workflowId.map fun i => .string i.text) ++
    present "execution_result" (r.result.map RunResult.toJson) ++
    listed "missing_params" (r.missing.map .string) ++
    listed "options" (r.offers.map offer) ++
    present "trigger_id" (r.triggerId.map fun i => .string i.text) ++
    present "data" r.data)

def toJson (r : Response) : Value := r.toJsonWith Offer.toJson

end Response

end Automation
