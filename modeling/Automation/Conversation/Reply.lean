import Automation.Text.Case
import Automation.Workflow.Skeleton

/-!
# Replies

What a reply means to an open question: a cancellation, the choice of an option, or values for
missing parameters.
-/

namespace Automation.Reply

open Json

def cancelWords : List String := ["cancel", "stop", "never mind", "nevermind", "forget it"]

/-- Whether the text is one of the words, in any case and with points or exclamation marks
behind. -/
def isCancel (text : String) : Bool :=
  let word := Text.dropTrailing (fun c => c == '.' || c == '!') (Text.trimChars text.toList)
  cancelWords.contains (Text.lower (String.ofList word))

/-- The text of a choice without number signs in front and points behind. -/
def choiceText (text : String) : String :=
  let cs := (Text.trimChars text.toList).dropWhile (· == '#')
  String.ofList (Text.trimChars (Text.dropTrailing (· == '.') cs))

/-- The place of the option that a reply picks: a number counted from 1, or else an id or name in
any case. -/
def pick? (text : String) (options : List Template) : Option Nat :=
  let choice := choiceText text
  match Text.nat? UInt64.size choice with
  | some n => if 1 ≤ n && n ≤ options.length then some (n - 1) else none
  | none =>
    let name := Text.lower choice
    options.findIdx? fun t => Text.lower t.id == name || Text.lower t.name == name

/-- A name as parameters are named: trimmed, in lower case, with underscores for spaces and
hyphens. -/
def normalizeKey (cs : List Char) : String :=
  String.ofList ((Text.lower (String.ofList (Text.trimChars cs))).toList.map fun c =>
    if c == ' ' || c == '-' then '_' else c)

/-- Values read so far, and the name of the one that may go on behind a comma. -/
structure Filling where
  values : Entries String := []
  current : Option String := none

/-- The name and the value of a part that assigns to a missing parameter. -/
def assignment? (missing : List String) (part : List Char) : Option (String × String) := do
  let (key, value) ← Text.cutWhere (fun c => c == ':' || c == '=') part
  let key := normalizeKey key
  if missing.contains key then
    return (key, String.ofList (Text.stripChars (· == '"') (Text.trimChars value)))
  else none

/-- Reads one part between commas: an assignment, or the continuation of the value before it. -/
def Filling.read (missing : List String) (f : Filling) (part : List Char) : Filling :=
  match assignment? missing part with
  | some (key, value) => ⟨Entries.insert f.values key value, some key⟩
  | none =>
    match f.current with
    | some key => { f with values := Entries.modify f.values key (· ++ "," ++ String.ofList part) }
    | none => f

/-- The values of the assignments in the text, which stand between line ends, semicolons and
commas. -/
def assignments (missing : List String) (text : String) : Entries String :=
  let lines := Text.splitWhere (fun c => c == '\n' || c == ';') text.toList
  lines.foldl (fun values line =>
    ((Text.splitWhere (· == ',') line).foldl (Filling.read missing) ⟨values, none⟩).values) []

def nonBlank (values : Entries String) : Entries String :=
  (Entries.mapValues Text.trim values).filter fun (_, v) => !v.isEmpty

/-- The values that a reply gives to missing parameters. A reply without any assignment is the value
of the only missing one. -/
def followUp (text : String) (missing : List String) : Entries String :=
  match nonBlank (assignments missing text), missing with
  | [], [only] =>
    let value := Text.trim (Text.strip (· == '"') (Text.trim text))
    if value.isEmpty || isCancel value then [] else [(only, value)]
  | values, _ => values

def scheduleConfig? (params : Entries String) : Option Value := do
  let every ← Text.nat? UInt64.size (← Entries.get? params "schedule_interval")
  let unit ← Entries.get? params "schedule_unit"
  return .record [("interval", .nat every), ("unit", .string unit)]

end Automation.Reply
