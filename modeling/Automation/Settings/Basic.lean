import Automation.Conversation.Instances
import Automation.Model.Settings
import Automation.Run.Settings
import Automation.Template.Match
import Automation.Trigger.Settings

/-!
# Settings

All settings of the application. They are read from TOML text, in which every section and every
entry may be left out; then variables of the environment take their place; then they are checked.
-/

namespace Automation

open Json

structure StorageSettings where
  databasePath : String := "data/autoflow.db"
  /-- Nothing outlives the process. -/
  ephemeral : Bool := false

structure WebSettings where
  bind : String := "127.0.0.1"
  port : Nat := 8787

/-- All settings. -/
structure Settings where
  scheduler : PollSettings := {}
  instances : InstanceSettings := {}
  execution : RunSettings := {}
  matching : MatchSettings := {}
  model : Model.Settings := {}
  storage : StorageSettings := {}
  /-- A catalog to be merged on top of the standard one. -/
  catalogPath : Option String := none
  web : WebSettings := {}

namespace StorageSettings

def decode : Decoder StorageSettings :=
  Decoder.record ["database_path", "ephemeral"] fun r => do
    let d : StorageSettings := {}
    return {
      databasePath := ← r.orElse "database_path" Decoder.string d.databasePath
      ephemeral := ← r.orElse "ephemeral" Decoder.bool d.ephemeral }

def toJson (s : StorageSettings) : Value :=
  .record [("database_path", .string s.databasePath), ("ephemeral", .bool s.ephemeral)]

end StorageSettings

namespace WebSettings

def decode : Decoder WebSettings :=
  Decoder.record ["bind", "port"] fun r => do
    let d : WebSettings := {}
    return {
      bind := ← r.orElse "bind" Decoder.string d.bind
      port := ← r.orElse "port" (Decoder.natBits 16) d.port }

def toJson (s : WebSettings) : Value := .record [("bind", .string s.bind), ("port", .nat s.port)]

end WebSettings

namespace Settings

private def decodeTemplates : Decoder (Option String) :=
  Decoder.record ["catalog_path"] fun r => r.maybe "catalog_path" Decoder.string

def decode : Decoder Settings :=
  Decoder.record ["scheduler", "instances", "execution", "matching", "llm", "storage", "templates",
      "web"] fun r => do
    return {
      scheduler := ← r.orElse "scheduler" PollSettings.decode {}
      instances := ← r.orElse "instances" InstanceSettings.decode {}
      execution := ← r.orElse "execution" RunSettings.decode {}
      matching := ← r.orElse "matching" MatchSettings.decode {}
      model := ← r.orElse "llm" Model.Settings.decode {}
      storage := ← r.orElse "storage" StorageSettings.decode {}
      catalogPath := ← r.orElse "templates" decodeTemplates none
      web := ← r.orElse "web" WebSettings.decode {} }

def toJson (s : Settings) : Value :=
  .record [("scheduler", s.scheduler.toJson), ("instances", s.instances.toJson),
    ("execution", s.execution.toJson), ("matching", s.matching.toJson), ("llm", s.model.toJson),
    ("storage", s.storage.toJson),
    ("templates", .record [("catalog_path", .text? s.catalogPath)]), ("web", s.web.toJson)]

/-- Why settings are not accepted. -/
inductive Error where
  /-- Not TOML, or not of the form of settings. -/
  | malformed
  /-- The file could not be read. -/
  | unreadable
  | unreadableVariable (name value : String)
  | unknownProvider (name value : String)
  | invalid (reason : String)
deriving DecidableEq, Repr

/-- The cause in words, where it is one of the settings' own. -/
def Error.reason? : Error → Option String
  | .malformed => none
  | .unreadable => none
  | .unreadableVariable name value => some s!"{name}: cannot parse `{value}`"
  | .unknownProvider name value => some s!"{name}: unknown provider `{value}`"
  | .invalid reason => some reason

/-- Checks that the settings can be worked with. -/
def validate (s : Settings) : Except Error Unit :=
  let fraction (name : String) (x : Float) : Except Error Unit :=
    if 0.0 ≤ x && x ≤ 1.0 then .ok ()
    else
      let given := Decimal.renderPlain x.toBits
      .error (.invalid s!"{name} must be within 0..=1, got {given}")
  let refuse (bad : Bool) (reason : String) : Except Error Unit :=
    if bad then .error (.invalid reason) else .ok ()
  let hours := s.instances.idleTtlHours
  do
    refuse (s.scheduler.intervalSecs == 0) "scheduler.poll_interval_secs must be at least 1"
    refuse (!(hours.isFinite && hours > 0.0)) "instances.idle_ttl_hours must be a positive number"
    refuse (s.instances.historyLimit == 0) "instances.history_limit must be at least 1"
    refuse (s.execution.stepTimeoutSecs == 0) "execution.step_timeout_secs must be at least 1"
    fraction "matching.auto_select_score" s.matching.autoSelectScore
    fraction "matching.auto_select_confidence" s.matching.autoSelectConfidence
    fraction "matching.min_candidate_score" s.matching.minScore
    refuse (s.matching.limit == 0) "matching.candidate_limit must be at least 1"
    refuse (s.model.provider != .none && Text.isBlankText s.model.model)
      "llm.model must be set when a provider is configured"

end Settings

end Automation
