import Automation.Entries
import Automation.Pattern.Reader
import Automation.Pattern.Search

/-!
# Extraction of values

An extractor finds values of one kind in a text by a pattern. Values are trimmed, and blank ones do
not count.
-/

namespace Automation

/-- What finds values of one kind, the entity. -/
structure Extractor where
  entity : String
  code : Array Pattern.Instr

namespace Extractor

def ofText? (entity pattern : String) : Option Extractor :=
  (Pattern.ofText? pattern).map fun p => ⟨entity, Pattern.instructions p⟩

/-- The trimmed value of a match, unless it is blank. -/
def value? (cs : List Char) (m : Pattern.Match) : Option String :=
  let v := Text.trimChars (m.value cs)
  if v.isEmpty then none else some (String.ofList v)

def values (e : Extractor) (text : String) : List String :=
  (Pattern.matchesIn e.code text.toList).filterMap (value? text.toList)

/-- The first value of every entity; the first extractor that finds one counts. -/
def firstValues (extractors : List Extractor) (text : String) : Entries String :=
  extractors.foldl (fun found e =>
    if Entries.has found e.entity then found
    else match (e.values text).head? with
      | some v => Entries.insert found e.entity v
      | none => found) []

/-- All values of an entity, each once: those of one extractor after those of the ones before it. -/
def allValues (extractors : List Extractor) (entity text : String) : List String :=
  ((extractors.filter (·.entity == entity)).flatMap (·.values text)).foldl
    (fun seen v => if seen.contains v then seen else seen ++ [v]) []

end Extractor

end Automation
