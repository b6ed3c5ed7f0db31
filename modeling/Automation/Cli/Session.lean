import Automation.Json.Layout
import Automation.Simulation.Run

/-!
# Sessions

A session is a conversation at the console: each line is a message, or one of the words that end the
session or show the instances.
-/

namespace Automation.Cli

open Simulation

def statusWord : StepStatus → String
  | .completed => "Completed"
  | .failed => "Failed"
  | .skipped => "Skipped"

/-- A text with every line but the first one indented. -/
def indented (s : String) : String :=
  String.ofList (s.toList.flatMap fun c => if c == '\n' then ['\n', ' ', ' '] else [c])

def responseText (r : Response) : String :=
  let steps := ((r.result.map (·.steps)).getD []).map fun s =>
    "    [" ++ statusWord s.status ++ "] " ++ s.stepId ++ " " ++ s.error.getD "" ++ "\n"
  let trigger := match r.triggerId with
    | some id => "    trigger: " ++ id.text ++ "\n"
    | none => ""
  "\n  " ++ indented r.message ++ "\n" ++ String.join steps ++ trigger ++ "\n"

def banner : String :=
  "\n  autoflow v" ++ Service.version ++
    "\n  Describe what to automate, or type 'quit' to exit.\n\n"

def promptText : String := "> "

structure Session where
  service : Service
  key : InstanceKey
  world : World

namespace Session

/-- What is shown for a line, and the session after it; nothing if the line ends the session. -/
def read (s : Session) (line : String) : Option (String × Session) :=
  let text := Text.trim line
  if text.isEmpty then some ("", s)
  else if text == "quit" || text == "exit" then none
  else
    let asked : Serving Response := if text == "status" then Service.listInstances
      else s.service.send s.key text
    let (r, world) := s.world.perform asked
    let s := { s with world }
    match r with
    | none => some ("", s)
    | some r =>
      if text == "status" then some ((r.data.getD .null).layout 0 ++ "\n", s)
      else some (responseText r, s)

/-- All that is shown for some lines. -/
def transcript (s : Session) : List String → String
  | [] => promptText
  | line :: rest =>
    match s.read line with
    | none => promptText
    | some (shown, s) => promptText ++ shown ++ s.transcript rest

end Session

def linesOf (text : String) : List String :=
  let parts := Text.splitWhere (· == '\n') text.toList
  let parts := if parts.getLast? == some [] then parts.dropLast else parts
  parts.map fun cs => String.ofList (if cs.getLast? == some '\r' then cs.dropLast else cs)

end Automation.Cli
