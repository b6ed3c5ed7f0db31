import Automation.Cli.Arguments
import Automation.Cli.Console
import Automation.Cli.Session
import Automation.Driver.Reader
import Automation.Settings.Environment
import Automation.Settings.EnvironmentFile
import Automation.Web.Api

/-!
# The program

The commands of the command line. A command prints and ends with an exit code, or begins a session
at the console.
-/

namespace Automation.Cli

open Simulation

/-- What a command comes to. -/
inductive Ending where
  | exit (code : Nat)
  | session (s : Session)

/-- Exit codes: done, not done, not understood, and broken down. -/
def done : Ending := .exit 0
def failed : Ending := .exit 1
def misused : Ending := .exit 2
def broken : Ending := .exit 101

def defaultConfigPath : String := "config/default.toml"

/-- A computation at the console that may end early. -/
abbrev Running := ExceptT Ending Console

namespace Running

variable {α : Type}

def stop (e : Ending) : Running α := Process.done (.error e)

def ofConsole (p : Console α) : Running α := p.andThen fun a => .done (.ok a)

def print (text : String) : Running Unit := ofConsole (Console.print text)

def need (e : Ending) : Option α → Running α
  | some a => pure a
  | none => stop e

end Running

/-- The text of the settings: of the file given, which must be there, or of the usual one. -/
def settingsText (path : Option String) : Running (Option String) := do
  match path with
  | some path =>
    let text ← Running.ofConsole (Console.readFile path)
    return some (← Running.need failed text)
  | none =>
    if ← Running.ofConsole (Console.pathExists defaultConfigPath) then
      let text ← Running.ofConsole (Console.readFile defaultConfigPath)
      return some (← Running.need failed text)
    else return none

def catalogOf (s : Settings) : Running Catalog := do
  match s.catalogPath with
  | none => return Catalog.standard
  | some path =>
    let text ← Running.ofConsole (Console.readFile path)
    match Catalog.ofToml (← Running.need failed text) with
    | .ok extra => return Catalog.standard.merge extra
    | .error _ => Running.stop failed

def benchOf : Running Bench :=
  match Bench.standard with
  | .ok b => pure b
  | .error _ => Running.stop failed

/-- The service with its world, which keeps what it holds in a database. -/
def openService (s : Settings) (environment : Entries String) (now : Time.Instant) :
    Running (Service × World) := do
  if !s.storage.ephemeral then
    if !(← Running.ofConsole (Console.openDatabase s.storage.databasePath)) then
      Running.stop failed
  let catalog ← catalogOf s
  match s.model.key environment.get? with
  | .error _ => Running.stop failed
  | .ok key =>
    let bench ← benchOf
    let service : Service := {
      settings := s, registry := bench.registry, catalog, hasModel := key.isSome }
    let world ← Running.need broken (World.ofService? service bench (.tables .empty) now)
    return (service, world)

/-! ## Status -/

def databaseLine (s : StorageSettings) : Running String := do
  let path := s.databasePath
  if s.ephemeral then return "in memory (ephemeral)"
  else if ← Running.ofConsole (Console.pathExists path) then return s!"OK ({path})"
  else return s!"NOT CREATED YET ({path})"

def modelLine (s : Model.Settings) (environment : Entries String) : String :=
  let provider := match s.provider with
    | .anthropic => "Anthropic"
    | .openai => "Openai"
    | .none => ""
  let state := if environment.has s.keyVariable then "key set" else "KEY MISSING"
  let model := s.model
  let variable_ := s.keyVariable
  if s.provider = .none then "none (keyword classification)"
  else s!"{provider} {model} ({variable_} {state})"

def executionLine (s : RunSettings) : String :=
  (if s.continueOnFailure then "continue on failure" else "fail fast") ++ ", step timeout " ++
    toString s.stepTimeoutSecs ++ "s, " ++ toString s.maxRetries ++ " retries"

def statusLine (label text : String) : String :=
  "  " ++ label ++ ":" ++ String.ofList (List.replicate (17 - label.length) ' ') ++ text ++ "\n"

def showStatus (s : Settings) (environment : Entries String) (now : Time.Instant) :
    Running Unit := do
  Running.print "\n  autoflow status\n  ===============\n\n"
  Running.print (statusLine "Database" (← databaseLine s.storage))
  Running.print (statusLine "Language model" (modelLine s.model environment))
  Running.print (statusLine "Scheduler" ("poll every " ++ toString s.scheduler.intervalSecs ++ "s"))
  Running.print (statusLine "Instances" ("idle TTL " ++
    Decimal.renderPlain s.instances.idleTtlHours.toBits ++ "h, history " ++
    toString s.instances.historyLimit ++ " messages"))
  Running.print (statusLine "Execution" (executionLine s.execution))
  let catalog ← catalogOf s
  let bench ← benchOf
  let _ ← Running.need broken (Instances.ofSettings? s.instances now)
  Running.print (statusLine "Templates" (toString catalog.size))
  Running.print (statusLine "Drivers" (toString bench.length) ++ "\n")

/-! ## Templates -/

def padded (width : Nat) (s : String) : String :=
  s ++ String.ofList (List.replicate (width - s.length) ' ')

def showTemplates (s : Settings) : Running Unit := do
  let catalog ← catalogOf s
  let line (t : Template) : String :=
    "  " ++ padded 22 t.id ++ " " ++ padded 10 t.category.text ++ " " ++ t.description ++ "\n"
  Running.print ("\n" ++ String.join (catalog.templates.map line) ++ "\n")

/-! ## Commands -/

def fireTrigger (service : Service) (world : World) (id : Id) : Running Ending := do
  match (world.perform (service.fireTrigger id)).1 with
  | none => return failed
  | some r =>
    Running.print (responseText r)
    return if r.status = .error then failed else done

def beginSession (service : Service) (world : World) (key : InstanceKey) (withScheduler : Bool) :
    Running Ending := do
  let world := if withScheduler then (world.perform Serving.startPolling).2 else world
  Running.print banner
  return .session ⟨service, key, world⟩

/-- Says where the server would listen; nobody listens there. -/
def announceServer (s : WebSettings) : Running Ending := do
  Running.print ("  autoflow listening on http://" ++ Web.address s ++ "\n")
  return failed

def Command.perform (c : Command) (s : Settings) (environment : Entries String)
    (now : Time.Instant) : Running Ending := do
  match c with
  | .status =>
    showStatus s environment now
    return done
  | .templates =>
    showTemplates s
    return done
  | .fire id =>
    let (service, world) ← openService s environment now
    fireTrigger service world id
  | .run agentId sessionId withScheduler =>
    let (service, world) ← openService s environment now
    beginSession service world ⟨agentId, sessionId⟩ withScheduler
  | .serve bind port =>
    let _ ← openService s environment now
    announceServer { bind := bind.getD s.web.bind, port := port.getD s.web.port }

/-- Carries an invocation out: the environment is extended by the file for it, and the settings are
read and checked. -/
def Invocation.perform (i : Invocation) (environment : Entries String) (now : Time.Instant) :
    Running Ending := do
  let extra ← Running.ofConsole (Console.readFile ".env")
  let environment := EnvironmentFile.extend environment (extra.getD "")
  let text ← settingsText i.config
  match Settings.load text environment.get? with
  | .error _ => return failed
  | .ok s => i.command.perform s environment now

def program (args : List String) (environment : Entries String) (now : Time.Instant) :
    Console Ending := do
  match Invocation.ofArguments args with
  | .error (.answered text) =>
    Console.print text
    return done
  | .error .misused => return misused
  | .ok i =>
    match ← (i.perform environment now).run with
    | .ok e => return e
    | .error e => return e

end Automation.Cli
