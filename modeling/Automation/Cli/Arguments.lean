import Automation.Cli.Help
import Automation.Id
import Automation.Text.Basic

/-!
# Arguments

The command line is read from left to right: options with a value behind them or attached to them,
flags, one command, and what the command takes. What is asked about first, help or version, is
answered at once; the first thing that cannot be understood ends the reading.
-/

namespace Automation.Cli

inductive Command where
  | run (agentId sessionId : String) (withScheduler : Bool)
  | serve (bind : Option String) (port : Option Nat)
  | status
  | templates
  | fire (triggerId : Id)
deriving DecidableEq, Repr

/-- A command with the options that all commands have. -/
structure Invocation where
  command : Command
  config : Option String := none
  logJson : Bool := false
deriving DecidableEq, Repr

/-- Why there is nothing to be done. -/
inductive Refusal where
  /-- Something is asked about, and this is the answer. -/
  | answered (text : String)
  | misused
deriving DecidableEq, Repr

structure OptionSpec where
  long : String
  short : Option Char := none
  takesValue : Bool := true
  /-- Whether it may have this value. -/
  accepts : String → Bool := fun _ => true

namespace Topic

def optionSpecs (t : Topic) : List OptionSpec :=
  let own : List OptionSpec := match t with
    | run => [{ long := "agent" }, { long := "session", short := 's' },
        { long := "with-scheduler", takesValue := false }]
    | serve => [{ long := "bind" },
        { long := "port", short := 'p', accepts := fun v => (Text.nat? 65536 v).isSome }]
    | _ => []
  own ++ [{ long := "config", short := 'c', accepts := fun v => !v.isEmpty },
    { long := "log-json", takesValue := false }]

end Topic

/-- What has been read on one level: the values of options, and arguments. -/
structure Reading where
  topic : Topic := .all
  values : List (String × String) := []
  arguments : List String := []

namespace Reading

/-- An option with its value; no option may stand twice. -/
def add (r : Reading) (o : OptionSpec) (value : String) : Except Refusal Reading :=
  if !o.accepts value || (r.values.lookup o.long).isSome then .error .misused
  else .ok { r with values := r.values ++ [(o.long, value)] }

def addArgument (r : Reading) (value : String) : Except Refusal Reading :=
  if r.topic = .fire && r.arguments.isEmpty && (Id.ofText? value).isSome then
    .ok { r with arguments := [value] }
  else .error .misused

/-- Whether a text stands for an option and not for a value. -/
def isOption (arg : String) : Bool := arg.toList.head? == some '-' && arg != "-"

/-- An option with the value that is attached to it or comes next. -/
def take (r : Reading) (o : OptionSpec) (attached : Option String) (rest : List String) :
    Except Refusal (Reading × List String) :=
  match o.takesValue, attached, rest with
  | false, none, _ => (r.add o "").map fun r => (r, rest)
  | false, some _, _ => .error .misused
  | true, some value, _ => (r.add o value).map fun r => (r, rest)
  | true, none, value :: rest =>
    if isOption value then .error .misused else (r.add o value).map fun r => (r, rest)
  | true, none, [] => .error .misused

def versionText : String := "autoflow 0.1.0\n"

def readLong (r : Reading) (body : List Char) (rest : List String) :
    Except Refusal (Reading × List String) :=
  let (name, attached) := match Text.cutWhere (· == '=') body with
    | some (name, value) => (String.ofList name, some (String.ofList value))
    | none => (String.ofList body, none)
  if name == "help" && attached.isNone then .error (.answered (r.topic.helpText true))
  else if name == "version" && attached.isNone && r.topic = .all then .error (.answered versionText)
  else match r.topic.optionSpecs.find? (·.long == name) with
    | some o => r.take o attached rest
    | none => .error .misused

def readShort (r : Reading) (body : List Char) (rest : List String) :
    Except Refusal (Reading × List String) :=
  match body with
  | [] => .error .misused
  | c :: more =>
    if c == 'h' then .error (.answered (r.topic.helpText false))
    else if c == 'V' && r.topic = .all then .error (.answered versionText)
    else match r.topic.optionSpecs.find? (·.short == some c) with
      | none => .error .misused
      | some o =>
        let attached := match more with
          | [] => none
          | '=' :: value => some (String.ofList value)
          | value => some (String.ofList value)
        r.take o attached rest

def readOption (r : Reading) (arg : String) (rest : List String) :
    Except Refusal (Reading × List String) :=
  match arg.toList with
  | '-' :: '-' :: body => r.readLong body rest
  | '-' :: body => r.readShort body rest
  | _ => .error .misused

def answerHelp : List String → Refusal
  | [] => .answered (Topic.helpText .all true)
  | [name] =>
    match Topic.commands.lookup name with
    | some t => .answered (t.helpText true)
    | none => .misused
  | _ => .misused

/-- Reads the arguments behind a command, or behind nothing. The number of arguments bounds the
steps. -/
def read : (steps : Nat) → (above : List (String × String)) → Reading → List String →
    Except Refusal (List (String × String) × Reading)
  | _, above, r, [] => .ok (above, r)
  | 0, _, _, _ :: _ => .error .misused
  | steps + 1, above, r, arg :: rest =>
    if arg == "--" then (rest.foldlM addArgument r).map fun r => (above, r)
    else if isOption arg then
      match r.readOption arg rest with
      | .ok (r, rest) => read steps above r rest
      | .error e => .error e
    else if r.topic = .all then
      match Topic.commands.lookup arg with
      | some .help => .error (answerHelp rest)
      | some t => read steps r.values { topic := t } rest
      | none => .error .misused
    else
      match r.addArgument arg with
      | .ok r => read steps above r rest
      | .error e => .error e

def command? (r : Reading) : Option Command :=
  let value (name : String) : Option String := r.values.lookup name
  match r.topic with
  | .run => some (.run ((value "agent").getD "cli") ((value "session").getD "local")
      (value "with-scheduler").isSome)
  | .serve => some (.serve (value "bind") ((value "port").bind (Text.nat? 65536)))
  | .status => some .status
  | .templates => some .templates
  | .fire => (r.arguments.head?.bind Id.ofText?).map .fire
  | .all | .help => none

end Reading

/-- Reads the arguments. An option that all commands have may stand in front of the command and
behind it; the latter counts. -/
def Invocation.ofArguments (args : List String) : Except Refusal Invocation := do
  let (above, r) ← Reading.read args.length [] {} args
  match r.command? with
  | none => .error .misused
  | some command =>
    return {
      command
      config := r.values.lookup "config" <|> above.lookup "config"
      logJson := (r.values.lookup "log-json" <|> above.lookup "log-json").isSome }

end Automation.Cli
