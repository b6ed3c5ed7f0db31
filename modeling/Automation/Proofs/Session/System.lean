import Automation.Proofs.Conversation.Instances
import Automation.Proofs.Process.Interleaving
import Automation.Proofs.Service.Effects

/-!
# Sessions side by side

Messages, creations, listings and sweeps go on side by side and share the table of instances. Every
request is answered at a time of a clock that never goes back. How the surroundings answer what is
not asked of the table is left open.
-/

namespace Automation

open Json

/-- The answer to a request for the time or about the table at a time, and the table after it. -/
def Instances.answer? (t : Instances) (now : Time.Instant) :
    (r : ServiceRequest) → Option (r.Answer × Instances)
  | .now => some (now, t)
  | .openInstance key initData =>
    let (i, t) := t.getOrCreate key initData now
    some (i.status now, t)
  | .beginTurn key =>
    let (i, t) := t.beginTurn key now
    some (i.map fun i => (i.serial, i.conversation), t)
  | .keepTurn serial c => some ((), t.store serial c)
  | .endTurn serial c => some ((), t.finish serial c now)
  | .removeInstance key => some ((t.get? key).isSome, t.remove key)
  | .listInstances => some (t.statuses now, t)
  | .clearInstances => some ((), t.clear)
  | _ => none

namespace Session

/-- What is asked: what the service asks, and sweeps. -/
inductive Request where
  | service (r : ServiceRequest)
  /-- Remove the idle instances. -/
  | sweep
  /-- Remove them if the interval since the last time has passed. -/
  | maybeSweep

/-- Every answer comes with the time at which it was given. -/
abbrev Request.Answer : Request → Type
  | service r => Time.Instant × r.Answer
  | sweep | maybeSweep => Time.Instant × Unit

/-- An exchange with its time. -/
abbrev Dealing := Exchange Request Request.Answer

def Dealing.time : Dealing → Time.Instant
  | ⟨.service _, a⟩ => a.1
  | ⟨.sweep, a⟩ | ⟨.maybeSweep, a⟩ => a.1

/-- A computation of the service whose answers come with their times. -/
def timed : Serving Response → Process Request Request.Answer (Option Response)
  | .done r => .done (some r)
  | .ask r next => .ask (.service r) fun x => timed (next x.2)

/-- What is called. No call removes an instance by name. -/
inductive Call where
  | send (key : InstanceKey) (text : String)
  | create (key : InstanceKey) (initData : Value)
  | list
  | sweep
  | maybeSweep

def Call.process (s : Service) : Call → Process Request Request.Answer (Option Response)
  | send key text => timed (s.send key text)
  | create key initData => timed (Service.createInstance key initData)
  | list => timed Service.listInstances
  | sweep => .ask .sweep fun _ => .done none
  | maybeSweep => .ask .maybeSweep fun _ => .done none

/-- How what is not asked of the table is answered at a time, and what becomes of the rest. -/
abbrev Surroundings (ρ : Type) := ρ → Time.Instant → (r : ServiceRequest) → r.Answer → ρ → Prop

/-- What calls share. -/
structure Shared (ρ : Type) where
  clock : Time.Instant
  table : Instances
  around : ρ

variable {ρ : Type}

/-- How the service is answered at a time: by the clock and the table, or by the surroundings. -/
def Shared.serves (others : Surroundings ρ) (s : Shared ρ) (now : Time.Instant)
    (r : ServiceRequest) (a : r.Answer) (s' : Shared ρ) : Prop :=
  match s.table.answer? now r with
  | some (a', table) => a = a' ∧ s'.table = table ∧ s'.around = s.around
  | none => s'.table = s.table ∧ others s.around now r a s'.around

/-- How requests are answered. The clock shows the time of the latest answer. -/
def Shared.answers (others : Surroundings ρ) (s : Shared ρ) :
    (r : Request) → r.Answer → Shared ρ → Prop
  | .service r, (now, a), s' =>
    s.clock.toMillis ≤ now.toMillis ∧ s'.clock = now ∧ s.serves others now r a s'
  | .sweep, (now, _), s' =>
    s.clock.toMillis ≤ now.toMillis ∧ s' = ⟨now, s.table.sweep now, s.around⟩
  | .maybeSweep, (now, _), s' =>
    s.clock.toMillis ≤ now.toMillis ∧ s' = ⟨now, s.table.maybeSweep now, s.around⟩

/-- The calls of a service side by side. -/
def sessions (s : Service) (others : Surroundings ρ) (enters : Call → Prop) :
    Interleaving Call (Shared ρ) Request Request.Answer (Option Response) :=
  ⟨Call.process s, enters, Shared.answers others, fun _ => none⟩

/-- A call as it goes on beside others. -/
abbrev Caller := Interleaving.Party Call Request Request.Answer (Option Response)

abbrev State (ρ : Type) :=
  Interleaving.State Call (Shared ρ) Request Request.Answer (Option Response)

/-- An exchange of the caller with this number. -/
abbrev Event := Interleaving.Event Request Request.Answer

/-- The exchanges of the service among those of a caller, without their times. -/
def untimed (log : List Dealing) : List Service.Deed :=
  log.filterMap fun
    | ⟨.service r, a⟩ => some ⟨r, a.2⟩
    | _ => none

theorem timed_injective : Function.Injective timed := by
  intro p
  induction p with
  | done r =>
    rintro (r' | ⟨r', next'⟩) h
    · cases h
      rfl
    · cases h
  | ask r next ih =>
    rintro (r' | ⟨r', next'⟩) h
    · cases h
    · simp only [timed, Process.ask.injEq, Request.service.injEq] at h
      obtain ⟨rfl, h⟩ := h
      have hnext : next = next' := funext fun a => ih a (congrFun (eq_of_heq h) (⟨0, 0⟩, a))
      rw [hnext]

theorem course_timed {p : Serving Response} {log : List Dealing}
    {q : Process Request Request.Answer (Option Response)} (h : Process.Course (timed p) log q) :
    ∃ p', q = timed p' ∧ Process.Course p (untimed log) p' := by
  generalize hp : timed p = p₀ at h
  induction h generalizing p with
  | stay => exact ⟨p, hp.symm, .stay p⟩
  | move a h ih =>
    cases p with
    | done r => cases hp
    | ask r next =>
      cases hp
      obtain ⟨p', hq, hc⟩ := ih rfl
      exact ⟨p', hq, .move a.2 hc⟩

end Session

end Automation
