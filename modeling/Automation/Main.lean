import Automation.Cli.Program
import Std.Time.DateTime.Timestamp

/-!
# The command line

Answers the requests of the console from the disk and the terminal, and reads the lines of a
session. What a command stores is kept for as long as it runs.
-/

namespace Automation.Cli

def textOf? (path : String) : IO (Option String) := do
  match ← (IO.FS.readFile path).toBaseIO with
  | .ok text => return some text
  | .error _ => return none

def canOpen (path : String) : IO Bool := do
  match ← (IO.FS.Handle.mk path .read).toBaseIO with
  | .ok _ => return true
  | .error _ => return false

/-- Prints without waiting for the end of the line. -/
def printFlushed (text : String) : IO Unit := do
  let out ← IO.getStdout
  out.putStr text
  out.flush

def answer : (r : ConsoleRequest) → IO r.Answer
  | .readFile path => textOf? path
  | .pathExists path => canOpen path
  | .openDatabase path => do
    match ← textOf? path with
    | some text => return text.isEmpty
    | none => return !(← canOpen path)
  | .print text => printFlushed text

def perform {α : Type} : Console α → IO α
  | .done a => pure a
  | .ask r next => do perform (next (← answer r))

def currentTime : IO Time.Instant := do
  let now ← Std.Time.Timestamp.now
  return Time.Instant.ofNanos now.toNanosecondsSinceUnixEpoch.val

/-- The variables of the environment, where the system shows them as a file. -/
def environment : IO (Entries String) := do
  let text := (← textOf? "/proc/self/environ").getD ""
  let parts := Text.splitWhere (· == Char.ofNat 0) text.toList
  return Entries.ofList (parts.filterMap fun cs =>
    (Text.cutWhere (· == '=') cs).map fun (name, value) =>
      (String.ofList name, String.ofList value))

/-- Reads the lines of a session until one ends it. -/
partial def converse (input : IO.FS.Stream) (s : Session) : IO Unit := do
  printFlushed promptText
  let line ← input.getLine
  if line.isEmpty then return
  let wall ← currentTime
  match { s with world := { s.world with wall } }.read line with
  | none => return
  | some (shown, s) =>
    printFlushed shown
    converse input s

end Automation.Cli

open Automation Automation.Cli in
def main (args : List String) : IO UInt32 := do
  match ← perform (program args (← environment) (← currentTime)) with
  | .exit code => return code.toUInt32
  | .session s =>
    converse (← IO.getStdin) s
    return 0
