import Automation.Intent.Category
import Automation.Trigger.Schedule

/-!
# Phrases

What the words of a request say about how often it is to be done and how many actions it chains.
-/

namespace Automation

structure Cadence where
  every : Nat
  unit : IntervalUnit
deriving DecidableEq, Repr

namespace Cadence

/-- The number and the word of a phrase behind `every`: the part before the first blank if it holds
digits only, else 1 and all of the phrase; nothing if the number is not below `2^64`. -/
def countAndWord? (phrase : List Char) : Option (Nat × List Char) :=
  match Text.cutWhere Text.isBlank phrase with
  | some (n, word) =>
    if n.all Char.isDigit then
      (Text.nat? UInt64.size (String.ofList n)).map fun count => (count, Text.trimChars word)
    else some (1, phrase)
  | none => some (1, phrase)

/-- So many times what the word stands for, in singular or plural. -/
def ofCount? (count : Nat) (word : List Char) : Option Cadence :=
  if count == 0 then none
  else
    let word := String.ofList (Text.dropTrailing (· == 's') word)
    if word == "minute" then some ⟨count, .minutes⟩
    else if word == "hour" then some ⟨count, .hours⟩
    else if word == "day" || word == "morning" || word == "evening" then some ⟨count, .days⟩
    else if word == "week" then if count * 7 < UInt64.size then some ⟨count * 7, .days⟩ else none
    else none

/-- The cadence of a phrase such as `daily` or `every 5 minutes`, in any case. -/
def ofText? (phrase : String) : Option Cadence :=
  let lower := (Text.asciiLower (Text.trim phrase)).toList
  if lower == "hourly".toList then some ⟨1, .hours⟩
  else if lower == "daily".toList then some ⟨1, .days⟩
  else if lower == "weekly".toList then some ⟨7, .days⟩
  else do
    let rest ← Text.dropLead? "every".toList lower
    let (count, word) ← countAndWord? (Text.trimChars rest)
    ofCount? count word

end Cadence

namespace Complexity

def connectors : List String := [" then ", " after that ", " afterwards "]

/-- The complexity of a text by the number of its connectors. -/
def ofConnectors (text : String) : Complexity :=
  let lower := ' ' :: (Text.lower text).toList ++ [' ']
  match connectors.foldl (fun n c => n + Text.count c.toList 0 lower) 0 with
  | 0 => .simple
  | 1 => .medium
  | _ => .complex

end Complexity

end Automation
