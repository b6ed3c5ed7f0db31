import Automation.Settings.Basic
import Automation.Toml.Reader

/-!
# Settings from text and environment

A variable of the environment, if it is set, takes the place of the entry it stands for. The first
that cannot be read is an error.
-/

namespace Automation.Settings

/-- What a variable does to the settings, given its name and its value. -/
abbrev Override := (name value : String) → Settings → Except Error Settings

/-- A variable whose trimmed value is read by `read?`. -/
private def entry {α : Type} (read? : String → Option α) (set : α → Settings → Settings) :
    Override :=
  fun name value s =>
    match read? (Text.trim value) with
    | some a => .ok (set a s)
    | none => .error (.unreadableVariable name value)

theorem of_entry {α : Type} {read? : String → Option α} {set : α → Settings → Settings}
    {name value : String} {s s' : Settings} (h : entry read? set name value s = .ok s') :
    ∃ a, read? (Text.trim value) = some a ∧ s' = set a s := by
  unfold entry at h
  split at h
  · next a ha =>
    cases h
    exact ⟨a, ha, rfl⟩
  · cases h

private def bool? (s : String) : Option Bool :=
  if s == "true" then some true else if s == "false" then some false else none

/-- The provider by its name in any case; an empty name stands for none. -/
private def provider : Override := fun name value s =>
  let word := Text.asciiLower value
  let found : Option Model.Provider :=
    if word.isEmpty then some .none else Model.Provider.all.find? (·.text == word)
  match found with
  | some p => .ok { s with model := { s.model with provider := p } }
  | none => .error (.unknownProvider name word)

theorem of_provider {name value : String} {s s' : Settings} (h : provider name value s = .ok s') :
    ∃ p, s' = { s with model := { s.model with provider := p } } := by
  simp only [provider] at h
  split at h
  · next p _ =>
    cases h
    exact ⟨p, rfl⟩
  · cases h

private def word : String → Option Nat := Text.nat? UInt64.size

def overrides : List (String × Override) := [
  ("AUTOFLOW_POLL_INTERVAL_SECS", entry word fun n s =>
    { s with scheduler := { s.scheduler with intervalSecs := n } }),
  ("AUTOFLOW_IDLE_TTL_HOURS", entry Decimal.ofText? fun x s =>
    { s with instances := { s.instances with idleTtlHours := x } }),
  ("AUTOFLOW_STEP_TIMEOUT_SECS", entry word fun n s =>
    { s with execution := { s.execution with stepTimeoutSecs := n } }),
  ("AUTOFLOW_CONTINUE_ON_FAILURE", entry bool? fun b s =>
    { s with execution := { s.execution with continueOnFailure := b } }),
  ("AUTOFLOW_AUTO_SELECT_SCORE", entry Decimal.ofText? fun x s =>
    { s with matching := { s.matching with autoSelectScore := x } }),
  ("AUTOFLOW_AUTO_SELECT_CONFIDENCE", entry Decimal.ofText? fun x s =>
    { s with matching := { s.matching with autoSelectConfidence := x } }),
  ("AUTOFLOW_LLM_PROVIDER", provider),
  ("AUTOFLOW_LLM_MODEL", fun _ value s => .ok { s with model := { s.model with model := value } }),
  ("AUTOFLOW_DATABASE_PATH", fun _ value s =>
    .ok { s with storage := { s.storage with databasePath := value } }),
  ("AUTOFLOW_EPHEMERAL", entry bool? fun b s =>
    { s with storage := { s.storage with ephemeral := b } }),
  ("AUTOFLOW_WEB_PORT", entry (Text.nat? UInt16.size) fun n s =>
    { s with web := { s.web with port := n } })]

def applyEnvironment (s : Settings) (lookup : String → Option String) : Except Error Settings :=
  overrides.foldlM (fun s (name, override) =>
    match lookup name with
    | some value => override name value s
    | none => .ok s) s

def ofToml (text : String) : Except Error Settings :=
  match (Toml.read? text).bind fun s => decode (2 * Json.maxDepth) s with
  | some s => .ok s
  | none => .error .malformed

/-- The settings of a text, or the standard ones without a text, with the variables that are set;
they are checked. -/
def load (text : Option String) (lookup : String → Option String) : Except Error Settings := do
  let base ← match text with
    | some t => ofToml t
    | none => pure {}
  let s ← base.applyEnvironment lookup
  s.validate
  return s

end Automation.Settings
