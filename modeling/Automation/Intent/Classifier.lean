import Automation.Intent.Basic
import Automation.Intent.Cadence
import Automation.Intent.Lexicon
import Automation.Model.Basic
import Automation.Model.Fence

/-!
# Classification of messages

A message is classified by a model, if there is one, and else by the lexicon. A failing model or an
answer of the wrong form is replaced by what the lexicon says, with less confidence and the reason.
-/

namespace Automation.Intent

open Json

def joinRecipients (text : String) (values : Entries String) : Entries String :=
  let recipients := Extractor.allValues Lexicon.extractors "recipient" text
  if recipients.length > 1 then
    Entries.insert values "recipient" (String.intercalate ", " recipients)
  else values

/-- Drops a project whose name is none. -/
def dropFalseProject (values : Entries String) : Entries String :=
  match Entries.get? values "project" with
  | some p =>
    if Lexicon.notProjects.contains (Text.asciiLower p) then Entries.erase values "project"
    else values
  | none => values

/-- Adds the number and the unit of a cadence under `schedule`. -/
def addCadence (values : Entries String) : Entries String :=
  match (Entries.get? values "schedule").bind Cadence.ofText? with
  | some c =>
    Entries.insert (Entries.insert values "schedule_interval" (toString c.every))
      "schedule_unit" c.unit.text
  | none => values

def extract (text : String) : Entries String :=
  addCadence <| dropFalseProject <|
    joinRecipients text (Extractor.firstValues Lexicon.extractors text)

/-- What a request of the category needs and what was reported missing, without what is there. -/
def missingFor (category : Category) (values : Entries String) (reported : List String) :
    List String :=
  (Lexicon.expected category ++ reported).foldl
    (fun missing key =>
      if Entries.has values key || missing.contains key then missing else missing ++ [key]) []

def clamp (x : Float) : Float :=
  if x < 0 then 0 else if 1 < x then 1 else x

/-- How certain the lexicon is of a category by the number of its words found: 0.7, up to 0.1 more
for further words and 0.15 more for a telling value, but at most 0.9. -/
def lexiconConfidence (category : Category) (words : Nat) (values : Entries String) : Float :=
  let more := 0.05 * Float.ofNat (words - 1)
  let base : Float := 0.7 + (if more < 0.1 then more else 0.1)
  let told := (Lexicon.telling category).any (Entries.has values)
  let sum := if told then base + 0.15 else base
  if sum < 0.9 then sum else 0.9

/-- The category of a text by its words, and how many of the words there are. -/
def route (text : String) : Category × Nat :=
  match Lexicon.router.route text with
  | some r => (Category.ofText r.handler, r.matched.length)
  | none => (.other, 0)

/-- What the lexicon makes of a text; a reason says why no model did. -/
def ofLexicon (text : String) (reason : Option String := none) : Intent :=
  let extracted := extract text
  let (category, words) := route text
  let known := category ≠ .other
  let confidence := if known then lexiconConfidence category words extracted else 0.3
  let penalty : Float := if reason.isSome then 0.1 else 0
  { isAutomation := known
    category
    confidence := clamp (confidence - penalty)
    extracted
    missing := missingFor category extracted []
    text
    complexity := Complexity.ofConnectors text
    source := .lexicon
    fallbackReason := reason }

/-- A model's answer before it is relied on. -/
structure Judgement where
  isAutomation : Option Bool
  category : Option String
  confidence : Option Float
  extracted : Members
  missing : List String
  complexity : Option String

def Judgement.decode : Decoder Judgement :=
  Decoder.record ["is_automation", "category", "confidence", "extracted_parameters",
      "missing_parameters", "complexity"] fun r => do
    return {
      isAutomation := ← r.optional "is_automation" Decoder.bool
      category := ← r.optional "category" Decoder.string
      confidence := ← r.optional "confidence" Decoder.float
      extracted := ← r.orElse "extracted_parameters" (Decoder.entries Decoder.value) []
      missing := ← r.orElse "missing_parameters" (Decoder.list Decoder.string) []
      complexity := ← r.optional "complexity" Decoder.string }

/-- The text of a value: strings are trimmed, blank ones and null do not count. -/
def paramOf? : Value → Option String
  | .null => none
  | .string s => if Text.isBlankText s then none else some (Text.trim s)
  | v => some v.render

/-- The first map with what only the second has. -/
def fillIn (values more : Entries String) : Entries String :=
  more.foldl (fun m (k, v) => if Entries.has m k then m else Entries.insert m k v) values

/-- The intent of a text by a judgement that says whether it is a request and of which category. -/
def ofJudgement? (text : String) (j : Judgement) : Option Intent := do
  let isAutomation ← j.isAutomation
  let category := Category.ofText (← j.category)
  let told := j.extracted.filterMap fun (k, v) => (paramOf? v).map fun s => (k, s)
  let extracted := fillIn told (extract text)
  return {
    isAutomation
    category
    confidence := clamp (j.confidence.getD 0.5)
    extracted
    missing := if isAutomation then missingFor category extracted j.missing else []
    text
    complexity := (j.complexity.bind Complexity.ofText?).getD (Complexity.ofConnectors text)
    source := .model
    fallbackReason := none }

/-- The intent of a text by a model's answer. -/
def ofAnswer (text : String) : Model.Answer → Intent
  | .error e => ofLexicon text (some e.message)
  | .ok answer =>
    match (Judgement.decode.ofText? (Model.stripFences answer)).bind (ofJudgement? text) with
    | some intent => intent
    | none => ofLexicon text (some "malformed model output")

def prompt (text : String) (history : List Model.Message) : Model.Prompt :=
  ⟨Lexicon.instructions, history ++ [{ role := .user, content := text }]⟩

def classify (hasModel : Bool) (utterance : String) (history : List Model.Message) :
    Model.Asking Intent :=
  let text := Text.trim utterance
  if text.isEmpty then .done (conversational text)
  else if !hasModel then .done (ofLexicon text)
  else do
    let answer ← Model.Asking.ask (prompt text history)
    return ofAnswer text answer

end Automation.Intent
