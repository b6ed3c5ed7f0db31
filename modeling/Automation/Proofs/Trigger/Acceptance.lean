import Automation.Proofs.Trigger.Handoff
import Automation.Proofs.Trigger.Staleness

/-!
# Firings that count and runs that are accepted

When a call has fired a trigger, its workflow was checked against the registry as it is now, and a
run was started and the time recorded. The run checks the workflow again, but by the report that is
stored with it. Where the two differ the firing counts and the run is refused.
-/

namespace Automation.Trigger

open Interleaving (share)

section Reached

variable {ρ : Type} {engine : Engine} {rep : Answering ρ} {m : ρ} {id : Id} {now : Time.Instant}
  {log : List (Interleaving.Event ServiceRequest ServiceRequest.Answer)} {n : Nat}
  {s : Interleaving.State Activity (Shared ρ) ServiceRequest ServiceRequest.Answer
    Activity.Result}

/-- A call that has fired a trigger has read a workflow that is valid against the registry, has
started a run of it and has recorded the time. The run comes to an end, and it is accepted just if
the report stored with the workflow says that it is valid. -/
theorem fired_accepted_iff (hrep : ∀ m r, ∃ a m', rep m r a m')
    (h : (activities engine rep).Reaches ⟨[], m⟩ log s) {past : List Deed} {f : Firing}
    (hp : s.parties[n]? = some ⟨.fire id now, past, .done (.fired (.ok f))⟩) :
    ∃ before later t w, ∃ k : Nat,
      log = before ++ (n, ⟨.launch engine ⟨id, f.executionId, w⟩, ()⟩) :: later ∧
      (n, ⟨.repository (.getTrigger id), .ok (some t)⟩) ∈ before ∧
      (n, ⟨.repository (.getWorkflow t.workflowId), .ok (some w)⟩) ∈ before ∧
      w.revalidate engine.registry = .ok () ∧
      (n, ⟨.repository (.stampTrigger id now), .ok ()⟩) ∈ later ∧
      (∃ log' u past b, (activities engine rep).Course s log' u ∧
        u.parties[k]? = some ⟨.run engine ⟨id, f.executionId, w⟩, past, .done b⟩) ∧
      ∀ log' u past b, (activities engine rep).Course s log' u →
        u.parties[k]? = some ⟨.run engine ⟨id, f.executionId, w⟩, past, .done b⟩ →
        ∃ outcome, b = .ran outcome ∧
          ((∃ result, outcome = .ok result) ↔ w.validation.isValid = true) ∧
          (w.validation.isValid = false →
            outcome = .error ⟨w.id, w.validation⟩ ∧ past = [⟨.release id, ()⟩]) := by
  have hfires := fires_of_reaches h hp
  generalize hshare : share n log = own at hfires
  cases hfires with
  | @starts lookups t w executionId hprepares =>
    obtain ⟨before, later, k, v, rfl, htrigger, hworkflow, hvalid, hstamp, -, hv, hcourse⟩ :=
      launched_of_prepares h hprepares hshare
    refine ⟨before, later, t, w, k, rfl, htrigger, hworkflow, hvalid, hstamp,
      exists_run_end hrep hv hcourse, fun log' u past b hmore hu => ?_⟩
    obtain ⟨outcome, rfl, hruns⟩ := run_ended hv (hcourse.trans hmore) hu
    refine ⟨outcome, rfl, ?_⟩
    cases hruns with
    | @accepted _ result _ haccepted =>
      exact ⟨iff_of_true ⟨result, rfl⟩ haccepted, fun hw => nomatch haccepted.symm.trans hw⟩
    | refused hrefused =>
      refine ⟨iff_of_false (fun ⟨_, h⟩ => nomatch h) ?_, fun _ => ⟨rfl, rfl⟩⟩
      exact Bool.eq_false_iff.mp hrefused

end Reached

/-! ## A trigger whose workflow is stored with a report -/

namespace Reported

open Hourly (engine acts)

/-- A workflow with the report on it that is stored. -/
def workflow (report : Report) : Workflow := { Hourly.workflow with validation := report }

def trigger (last : Option Time.Instant) : Trigger :=
  { Hourly.trigger .active with lastTriggered := last }

def memory (report : Report) (last : Option Time.Instant) : Memory :=
  { workflows := [⟨"", workflow report⟩], triggers := [trigger last] }

def run (report : Report) : TriggeredRun := ⟨.zero, .zero, workflow report⟩

/-- The report from the time when there was no board. -/
def noBoard : Report := .of [] ["step `a`: unknown driver `board`"]

/-- What is asked to fire the trigger, with the answer when the time is to be recorded. -/
def firing (report : Report) (stamped : Except RepositoryError Unit) : List Deed :=
  [⟨.claim .zero, true⟩, ⟨.repository (.getTrigger .zero), .ok (some (trigger none))⟩,
    ⟨.repository (.getWorkflow .zero), .ok (some (workflow report))⟩, ⟨.freshId, Id.zero⟩,
    ⟨.launch engine (run report), ()⟩, ⟨.repository (.stampTrigger .zero ⟨0, 0⟩), stamped⟩]

/-- What the firing comes to. -/
def outcome : Except RepositoryError Unit → Except FiringError Firing
  | .ok () => .ok ⟨.zero, .zero, .zero, ⟨0, 0⟩⟩
  | .error e => .error (.notStamped .zero .zero e)

theorem reaches_started (report : Report) {stamped : Except RepositoryError Unit} {after : Memory}
    (h : Memory.answering (memory report none) (.stampTrigger .zero ⟨0, 0⟩) stamped after) :
    acts.Reaches ⟨[], memory report none⟩ ((firing report stamped).map (0, ·))
      ⟨[⟨.fire .zero ⟨0, 0⟩, firing report stamped, .done (.fired (outcome stamped))⟩,
        acts.newcomer (.run engine (run report))], ⟨[.zero], after⟩⟩ := by
  let free : Shared Memory := ⟨[], memory report none⟩
  let taken : Shared Memory := ⟨[.zero], memory report none⟩
  have hcall : acts.enters (.fire .zero ⟨0, 0⟩) := rfl
  have hclaim : acts.answers free (.claim .zero) true taken := ⟨rfl, rfl⟩
  have htrigger : acts.answers taken (.repository (.getTrigger .zero))
    (.ok (some (trigger none))) taken := ⟨rfl, .inl rfl⟩
  have hworkflow : acts.answers taken (.repository (.getWorkflow .zero))
    (.ok (some (workflow report))) taken := ⟨rfl, .inl rfl⟩
  have hfresh : acts.answers taken .freshId Id.zero taken := rfl
  have hlaunch : acts.answers taken (.launch engine (run report)) () taken := rfl
  have hstamp : acts.answers taken (.repository (.stampTrigger .zero ⟨0, 0⟩)) stamped
    ⟨[.zero], after⟩ := ⟨rfl, h⟩
  have joined : acts.Reaches free [] _ := .move .stay (.join hcall)
  have claimed := joined.move (.answer (n := 0) rfl hclaim)
  have found := claimed.move (.answer (n := 0) rfl htrigger)
  have looked := found.move (.answer (n := 0) rfl hworkflow)
  have named := looked.move (.answer (n := 0) rfl hfresh)
  have launched := named.move (.answer (n := 0) rfl hlaunch)
  have answered := launched.move (.answer (n := 0) rfl hstamp)
  cases stamped with
  | ok _ => exact answered
  | error _ => exact answered

private theorem reaches_fired (report : Report) :
    acts.Reaches ⟨[], memory report none⟩ ((firing report (.ok ())).map (0, ·))
      ⟨[⟨.fire .zero ⟨0, 0⟩, firing report (.ok ()),
          .done (.fired (.ok ⟨.zero, .zero, .zero, ⟨0, 0⟩⟩))⟩,
        acts.newcomer (.run engine (run report))], ⟨[.zero], memory report (some ⟨0, 0⟩)⟩⟩ :=
  reaches_started report (.inl rfl)

private theorem exists_answer (m : Memory) (r : RepositoryRequest) :
    ∃ a m', Memory.answering m r a m' :=
  ⟨_, _, .inl rfl⟩

end Reported

open Hourly (engine acts)
open Reported

/-- A firing of a workflow that is stored as valid leads to a run that is accepted. -/
theorem fired_accepted_iff_valid :
    (∀ m r, ∃ a m', Memory.answering m r a m') ∧
    ∃ log s, acts.Reaches ⟨[], memory { isValid := true } none⟩ log s ∧
      (∃ past f, s.parties[0]? = some ⟨.fire .zero ⟨0, 0⟩, past, .done (.fired (.ok f))⟩) ∧
      ∃ w, ∃ k : Nat, ∃ log' u past result, acts.Course s log' u ∧
        u.parties[k]? = some ⟨.run engine ⟨.zero, .zero, w⟩, past, .done (.ran (.ok result))⟩ := by
  have hreaches := reaches_fired { isValid := true }
  obtain ⟨before, later, t, w, k, hlog, -, -, -, -, ⟨log', u, past, b, hcourse, hu⟩, hends⟩ :=
    fired_accepted_iff exists_answer hreaches (n := 0) rfl
  obtain ⟨outcome, rfl, haccepted, -⟩ := hends log' u past b hcourse hu
  have hlaunch : (0, ⟨.launch engine ⟨.zero, .zero, w⟩, ()⟩) ∈
      (firing { isValid := true } (.ok ())).map (0, ·) := by
    rw [hlog]
    simp
  obtain rfl : w = workflow { isValid := true } := by simpa [firing, run] using hlaunch
  obtain ⟨result, rfl⟩ := haccepted.mpr rfl
  exact ⟨exists_answer, _, _, hreaches, ⟨_, _, rfl⟩, _, k, log', u, past, result, hcourse, hu⟩

/-- A trigger is fired and the time recorded, and the run that was started is refused. -/
theorem fired_and_refused :
    ∃ log s past past', acts.Reaches ⟨[], memory noBoard none⟩ log s ∧
      s.parties[0]? =
        some ⟨.fire .zero ⟨0, 0⟩, past, .done (.fired (.ok ⟨.zero, .zero, .zero, ⟨0, 0⟩⟩))⟩ ∧
      (workflow noBoard).revalidate engine.registry = .ok () ∧
      s.shared.repository.trigger? .zero = some (trigger (some ⟨0, 0⟩)) ∧
      s.parties[1]? =
        some ⟨.run engine (run noBoard), past', .done (.ran (.error ⟨.zero, noBoard⟩))⟩ := by
  have hrelease : acts.answers ⟨[.zero], memory noBoard (some ⟨0, 0⟩)⟩ (.release .zero) ()
    ⟨[], memory noBoard (some ⟨0, 0⟩)⟩ := ⟨rfl, rfl⟩
  have refused := (reaches_fired noBoard).move (.answer (n := 1) rfl hrelease)
  exact ⟨_, _, _, _, refused, rfl, rfl, rfl, rfl⟩

end Automation.Trigger
