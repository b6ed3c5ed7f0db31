/-!
# Help texts

What the command line says about itself.
-/

namespace Automation.Cli

/-- What help can be asked about. -/
inductive Topic where
  | all
  | run
  | serve
  | status
  | templates
  | fire
  | help
deriving DecidableEq, Repr

namespace Topic

def commands : List (String × Topic) :=
  [("run", run), ("serve", serve), ("status", status), ("templates", templates), ("fire", fire),
    ("help", help)]

def about : Topic → String
  | all => "autoflow -- natural-language workflow automation"
  | run => "Chat with one agent instance in the terminal"
  | serve => "Start the HTTP API and the trigger scheduler"
  | status => "Show the effective configuration and what it resolves to"
  | templates => "List the template catalog"
  | fire => "Fire a stored trigger once and print the result"
  | help => "Print this message or the help of the given subcommand(s)"

def usage : Topic → String
  | all => "autoflow [OPTIONS] <COMMAND>"
  | run => "autoflow run [OPTIONS]"
  | serve => "autoflow serve [OPTIONS]"
  | status => "autoflow status [OPTIONS]"
  | templates => "autoflow templates [OPTIONS]"
  | fire => "autoflow fire [OPTIONS] <TRIGGER_ID>"
  | help => "autoflow help [COMMAND]..."

private def config : String × String :=
  ("-c, --config <CONFIG>", "Config file (defaults to config/default.toml when present)")

private def logJson : String × String := ("    --log-json", "Emit logs as JSON lines")

private def helpFlag : String × String := ("-h, --help", "Print help")

def options : Topic → List (String × String)
  | all => [config, logJson, ("-h, --help", "Print help (see more with '--help')"),
      ("-V, --version", "Print version")]
  | run => [("    --agent <AGENT>", "Agent id for the instance [default: cli]"), config, logJson,
      ("-s, --session <SESSION>", "Session id for the instance [default: local]"),
      ("    --with-scheduler", "Also run the trigger scheduler while the REPL is open"), helpFlag]
  | serve => [
      ("    --bind <BIND>", "Address to bind (overrides \x60[web] bind\x60)"), config, logJson,
      ("-p, --port <PORT>", "Port to listen on (overrides \x60[web] port\x60)"), helpFlag]
  | status | templates | fire => [config, logJson, helpFlag]
  | help => []

def arguments : Topic → List (String × String)
  | fire => [("<TRIGGER_ID>", "The trigger to fire")]
  | help => [("[COMMAND]...", "Print help for the subcommand(s)")]
  | _ => []

end Topic

private def spaces (n : Nat) : String := String.ofList (List.replicate n ' ')

/-- A list of names in one column with their meanings in the other. -/
def columns (heading : String) (rows : List (String × String)) : String :=
  let width := (rows.map fun (name, _) => name.length).foldl max 0
  let line := fun (name, meaning) =>
    "  " ++ name ++ spaces (width - name.length) ++ "  " ++ meaning ++ "\n"
  if rows.isEmpty then "" else "\n" ++ heading ++ ":\n" ++ String.join (rows.map line)

def Topic.shortHelp (t : Topic) : String :=
  let commands := if t = .all then Topic.commands.map fun (name, c) => (name, c.about) else []
  t.about ++ "\n\nUsage: " ++ t.usage ++ "\n" ++ columns "Commands" commands ++
    columns "Arguments" t.arguments ++ columns "Options" t.options

/-- The long help on everything, with the meaning of an option on a line of its own. -/
def longHelp : String :=
  let rows := Topic.options .all |>.map fun (name, meaning) =>
    "  " ++ name ++ "\n          " ++
      (if name == "-h, --help" then "Print help (see a summary with '-h')" else meaning) ++ "\n"
  "Turns requests like \"send a welcome email to ops@example.com\" into validated workflows, " ++
    "runs them,\nand fires stored workflows on triggers.\n\nUsage: " ++ Topic.usage .all ++ "\n" ++
    columns "Commands" (Topic.commands.map fun (name, c) => (name, c.about)) ++
    "\nOptions:\n" ++ String.intercalate "\n" rows

/-- The help on a topic; only the help on everything has a long form. -/
def Topic.helpText (t : Topic) (long : Bool) : String :=
  if long && t = .all then longHelp else t.shortHelp

end Automation.Cli
