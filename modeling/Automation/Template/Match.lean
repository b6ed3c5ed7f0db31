import Automation.Intent.Basic
import Automation.Template.Catalog
import Automation.Text.Letter

/-!
# Matching templates

Templates are scored against an intent and offered in the order of their scores; among equals the
more often used one comes first, then the more successful one, then the earlier one of the catalog.
-/

namespace Automation

open Json

/-- When a template is offered, and when it is taken without asking. -/
structure MatchSettings where
  /-- The best score must be above this for its template to be taken. -/
  autoSelectScore : Float := 0.7
  /-- The confidence in the intent must be above this for a template to be taken. -/
  autoSelectConfidence : Float := 0.8
  /-- Templates below this score are not offered. -/
  minScore : Float := 0.3
  /-- How many templates are offered at most. -/
  limit : Nat := 3

namespace MatchSettings

def decode : Decoder MatchSettings :=
  Decoder.record ["auto_select_score", "auto_select_confidence", "min_candidate_score",
      "candidate_limit"] fun r => do
    let d : MatchSettings := {}
    return {
      autoSelectScore := ← r.orElse "auto_select_score" Decoder.float d.autoSelectScore
      autoSelectConfidence :=
        ← r.orElse "auto_select_confidence" Decoder.float d.autoSelectConfidence
      minScore := ← r.orElse "min_candidate_score" Decoder.float d.minScore
      limit := ← r.orElse "candidate_limit" (Decoder.natBits 64) d.limit }

def toJson (s : MatchSettings) : Value :=
  .record [("auto_select_score", .float s.autoSelectScore),
    ("auto_select_confidence", .float s.autoSelectConfidence),
    ("min_candidate_score", .float s.minScore), ("candidate_limit", .nat s.limit)]

end MatchSettings

/-- What the parts of a score weigh. -/
structure ScoreWeights (α : Type) where
  zero : α
  /-- The same category. -/
  category : α
  /-- So many keywords found. -/
  keywords : Nat → α
  /-- The same complexity. -/
  sameComplexity : α
  /-- The next complexity. -/
  nextComplexity : α

/-- The weights in binary64 numbers: each keyword a tenth, up to three tenths. -/
def ScoreWeights.standard : ScoreWeights Float where
  zero := 0.0
  category := 0.4
  keywords n := if 0.1 * Float.ofNat n < 0.3 then 0.1 * Float.ofNat n else 0.3
  sameComplexity := 0.2
  nextComplexity := 0.1

/-- The weights as exact numbers. -/
def ScoreWeights.exact : ScoreWeights Rat where
  zero := 0
  category := 4 / 10
  keywords n := (min n 3 : Nat) / 10
  sameComplexity := 2 / 10
  nextComplexity := 1 / 10

structure Candidate where
  template : Template
  score : Float

namespace Template

/-- The words of a text, hyphens being part of them. -/
def tokens (text : String) : List String :=
  ((Text.splitWhere (fun c => !(Text.isAlphanumeric c || c == '-')) text.toList).filter
    (!·.isEmpty)).map String.ofList

def isFound (text : String) (tokens : List String) (keyword : String) : Bool :=
  if keyword.toList.contains ' ' then Text.contains text keyword else tokens.contains keyword

def hits (keywords : List String) (text : String) (tokens : List String) : Nat :=
  ((keywords.map fun k => Text.lower (Text.trim k)).filter (isFound text tokens)).length

/-- The weight of the distance between two complexities. -/
def complexityWeight {α : Type} (w : ScoreWeights α) (a b : Complexity) : α :=
  match max a.rank b.rank - min a.rank b.rank with
  | 0 => w.sameComplexity
  | 1 => w.nextComplexity
  | _ => w.zero

/-- The score by the given weights. -/
def weighted {α : Type} [Add α] [Mul α] (w : ScoreWeights α) (t : Template) (category : Category)
    (complexity : Complexity) (confidence : α) (text : String) (tokens : List String) : α :=
  let base := if t.category = category then w.zero + w.category else w.zero
  (base + w.keywords (hits t.keywords text tokens) + complexityWeight w t.complexity complexity)
    * confidence

def score (t : Template) (intent : Intent) (text : String) (tokens : List String) : Float :=
  t.weighted .standard intent.category intent.complexity intent.confidence text tokens

end Template

namespace Candidate

/-- Whether the first is offered before the second. -/
def before (a b : Candidate) : Bool :=
  let scoreA := Decimal.orderKey a.score.toBits
  let scoreB := Decimal.orderKey b.score.toBits
  let successA := Decimal.orderKey a.template.successRate
  let successB := Decimal.orderKey b.template.successRate
  scoreB < scoreA || (scoreA == scoreB && (b.template.usageCount < a.template.usageCount ||
    (a.template.usageCount == b.template.usageCount && successB < successA)))

/-- The candidates in the order in which they are offered; equals keep their order. -/
def rank (cs : List Candidate) : List Candidate := cs.mergeSort fun a b => !b.before a

end Candidate

namespace Catalog

def scored (c : Catalog) (settings : MatchSettings) (intent : Intent) : List Candidate :=
  let text := Text.lower intent.text
  let tokens := Template.tokens text
  (c.templates.map fun t => ⟨t, t.score intent text tokens⟩).filter (settings.minScore ≤ ·.score)

/-- The best templates for an intent, at most `limit`; none for one that asks for nothing. -/
def candidates (c : Catalog) (settings : MatchSettings) (intent : Intent) (limit : Nat) :
    List Candidate :=
  if intent.isAutomation then (Candidate.rank (c.scored settings intent)).take limit else []

end Catalog

/-- Whether the first candidate is taken without asking. -/
def MatchSettings.takesFirst (s : MatchSettings) (intent : Intent) (cs : List Candidate) : Bool :=
  match cs with
  | [] => false
  | top :: _ =>
    s.autoSelectScore < top.score && s.autoSelectConfidence < intent.confidence &&
      intent.missing.isEmpty

end Automation
