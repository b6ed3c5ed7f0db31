import Automation.Proofs.Process.Interleaving
import Automation.Proofs.Repository.Triggers
import Automation.Service.Requests
import Automation.Trigger.Claims

/-!
# Activities around triggers

Calls that fire, pause and resume triggers, passes, and the runs in the background go on side by
side. They share the set of taken triggers and a repository. How the repository answers is left
open, so that it may fail at any time.
-/

namespace Automation.Trigger

/-- What is done with triggers: a call, a pass, or a run that one of them has started. -/
inductive Activity where
  | fire (id : Id) (now : Time.Instant)
  | pass (now : Time.Instant)
  | pause (id : Id)
  | resume (id : Id)
  | run (engine : Engine) (r : TriggeredRun)

/-- What comes out of an activity. -/
inductive Activity.Result where
  | fired (r : Except FiringError Firing)
  | passed (r : Except RepositoryError PassReport)
  | answered (r : Response)
  | ran (r : Except Workflow.Invalid RunResult)

def Activity.process (engine : Engine) : Activity → Serving Activity.Result
  | fire id now => do return .fired (← Trigger.fire engine id now)
  | pass now => do return .passed (← Trigger.pass engine now)
  | pause id => do return .answered (← Service.pauseTrigger id)
  | resume id => do return .answered (← Service.resumeTrigger id)
  | run engine r => do return .ran (← r.process engine)

/-- An exchange of an activity. -/
abbrev Deed := Exchange ServiceRequest ServiceRequest.Answer

/-- An activity as it goes on beside others. -/
abbrev Ongoing := Interleaving.Party Activity ServiceRequest ServiceRequest.Answer Activity.Result

/-- What activities share. -/
@[ext] structure Shared (ρ : Type) where
  taken : List Id := []
  repository : ρ

/-- How requests are answered. What neither the taken triggers nor the repository decide is answered
in any way. -/
def Shared.answers {ρ : Type} (rep : Answering ρ) (s : Shared ρ) (r : ServiceRequest)
    (a : r.Answer) (s' : Shared ρ) : Prop :=
  match r, a with
  | .claim id, free => (free, s'.taken) = Claims.claim s.taken id ∧ s'.repository = s.repository
  | .release id, _ => s'.taken = Claims.release s.taken id ∧ s'.repository = s.repository
  | .claimed, taken => taken = s.taken ∧ s' = s
  | .repository r, a => s'.taken = s.taken ∧ rep s.repository r a s'.repository
  | _, _ => s' = s

theorem Shared.exists_answer {ρ : Type} {rep : Answering ρ} (hrep : ∀ m r, ∃ a m', rep m r a m')
    (s : Shared ρ) (r : ServiceRequest) : ∃ a s', s.answers rep r a s' := by
  cases r with
  | claim id => exact ⟨_, ⟨_, s.repository⟩, rfl, rfl⟩
  | release id => exact ⟨(), ⟨Claims.release s.taken id, s.repository⟩, rfl, rfl⟩
  | claimed => exact ⟨s.taken, s, rfl, rfl⟩
  | repository r =>
    obtain ⟨a, m, h⟩ := hrep s.repository r
    exact ⟨a, ⟨s.taken, m⟩, rfl, h⟩
  | now => exact ⟨⟨0, 0⟩, s, rfl⟩
  | awaitRun _ => exact ⟨.error ⟨.zero, {}⟩, s, rfl⟩
  | complete _ => exact ⟨.ok "", s, rfl⟩
  | _ => exact ⟨default, s, rfl⟩

theorem Shared.answers.repository {ρ : Type} {rep : Answering ρ} {s s' : Shared ρ}
    {r : ServiceRequest} {a : r.Answer} (h : s.answers rep r a s') :
    (∃ r' a', (⟨r, a⟩ : Deed) = ⟨.repository r', a'⟩ ∧
        rep s.repository r' a' s'.repository) ∨ s'.repository = s.repository := by
  cases r with
  | repository r => exact .inl ⟨r, a, rfl, h.2⟩
  | claim _ | release _ => exact .inr h.2
  | claimed => exact .inr (congrArg Shared.repository h.2)
  | _ => exact .inr (congrArg Shared.repository h)

/-- A run does not begin by itself. -/
def Activity.isCall : Activity → Bool
  | run _ _ => false
  | _ => true

/-- Whom a request lets join: the run that is started. -/
def started : ServiceRequest → Option Activity
  | .launch engine r => some (.run engine r)
  | _ => none

/-- The activities side by side. -/
def activities {ρ : Type} (engine : Engine) (rep : Answering ρ) :
    Interleaving Activity (Shared ρ) ServiceRequest ServiceRequest.Answer Activity.Result :=
  ⟨Activity.process engine, (·.isCall), Shared.answers rep, started⟩

end Automation.Trigger
