import Automation.Proofs.Process.Background
import Automation.Proofs.Service.Effects
import Automation.Proofs.Trigger.Activity

/-!
# How a call hands a trigger over

A call that fires a trigger goes one of four ways. It is refused, it gives the trigger back because
there is nothing valid to run, or it starts a run, and then it records the time or fails to. The run
that it starts goes on as an activity of its own.
-/

namespace Automation.Trigger

open Process (Ends)
open Interleaving (share)

section Parts

variable {engine : Engine} {registry : Registry} {id : Id} {now : Time.Instant} {log : List Deed}

/-- The ways a search for the trigger and its valid workflow can go. -/
inductive Prepares (registry : Registry) (id : Id) :
    List Deed → Except FiringError (Trigger × Workflow) → Prop where
  | unread (e : RepositoryError) :
      Prepares registry id [⟨.repository (.getTrigger id), .error e⟩] (.error (.repository e))
  | unknown : Prepares registry id [⟨.repository (.getTrigger id), .ok none⟩]
      (.error (.repository (.triggerNotFound id)))
  | workflowUnread (t : Trigger) (e : RepositoryError) :
      Prepares registry id [⟨.repository (.getTrigger id), .ok (some t)⟩,
        ⟨.repository (.getWorkflow t.workflowId), .error e⟩] (.error (.repository e))
  | workflowUnknown (t : Trigger) :
      Prepares registry id [⟨.repository (.getTrigger id), .ok (some t)⟩,
        ⟨.repository (.getWorkflow t.workflowId), .ok none⟩]
        (.error (.workflowNotFound t.workflowId))
  | invalid (t : Trigger) (w : Workflow) (e : Workflow.Invalid) :
      w.revalidate registry = .error e →
      Prepares registry id [⟨.repository (.getTrigger id), .ok (some t)⟩,
        ⟨.repository (.getWorkflow t.workflowId), .ok (some w)⟩] (.error (.invalid e))
  | valid (t : Trigger) (w : Workflow) : w.revalidate registry = .ok () →
      Prepares registry id [⟨.repository (.getTrigger id), .ok (some t)⟩,
        ⟨.repository (.getWorkflow t.workflowId), .ok (some w)⟩] (.ok (t, w))

private theorem prepares_of_ends {found : Except FiringError (Trigger × Workflow)}
    (h : Ends (prepare registry id) log found) : Prepares registry id log found := by
  obtain ⟨t?, log₁, rfl, h₁⟩ := h.of_ask
  rcases t? with e | _ | t
  · obtain ⟨rfl, rfl⟩ := Ends.of_done h₁
    exact .unread e
  · obtain ⟨rfl, rfl⟩ := Ends.of_done h₁
    exact .unknown
  · obtain ⟨w?, log₂, rfl, h₂⟩ := Ends.of_ask h₁
    rcases w? with e | _ | w
    · obtain ⟨rfl, rfl⟩ := Ends.of_done h₂
      exact .workflowUnread t e
    · obtain ⟨rfl, rfl⟩ := Ends.of_done h₂
      exact .workflowUnknown t
    · dsimp only [Process.andThen] at h₂
      cases hvalid : w.revalidate registry with
      | error e =>
        rw [hvalid] at h₂
        obtain ⟨rfl, rfl⟩ := Ends.of_done h₂
        exact .invalid t w e hvalid
      | ok _ =>
        rw [hvalid] at h₂
        obtain ⟨rfl, rfl⟩ := Ends.of_done h₂
        exact .valid t w hvalid

/-- The ways a call that fires a trigger can go. -/
inductive Fires (engine : Engine) (id : Id) (now : Time.Instant) :
    List Deed → Except FiringError Firing → Prop where
  | refused : Fires engine id now [⟨.claim id, false⟩] (.error (.stillRunning id))
  | givesBack {lookups : List Deed} {e : FiringError} :
      Prepares engine.registry id lookups (.error e) →
      Fires engine id now (⟨.claim id, true⟩ :: (lookups ++ [⟨.release id, ()⟩])) (.error e)
  | starts {lookups : List Deed} {t : Trigger} {w : Workflow} (executionId : Id) :
      Prepares engine.registry id lookups (.ok (t, w)) →
      Fires engine id now (⟨.claim id, true⟩ :: (lookups ++ [⟨.freshId, executionId⟩,
          ⟨.launch engine ⟨id, executionId, w⟩, ()⟩, ⟨.repository (.stampTrigger id now), .ok ()⟩]))
        (.ok ⟨id, w.id, executionId, now⟩)
  | startsUnstamped {lookups : List Deed} {t : Trigger} {w : Workflow} (executionId : Id)
      (e : RepositoryError) : Prepares engine.registry id lookups (.ok (t, w)) →
      Fires engine id now (⟨.claim id, true⟩ :: (lookups ++ [⟨.freshId, executionId⟩,
          ⟨.launch engine ⟨id, executionId, w⟩, ()⟩,
          ⟨.repository (.stampTrigger id now), .error e⟩]))
        (.error (.notStamped id executionId e))

theorem fires_of_ends {r : Except FiringError Firing} (h : Ends (fire engine id now) log r) :
    Fires engine id now log r := by
  obtain ⟨free, log₁, rfl, h₁⟩ := h.of_ask
  cases free with
  | false =>
    obtain ⟨rfl, rfl⟩ := Ends.of_done h₁
    exact .refused
  | true =>
    obtain ⟨found, lookups, log₂, rfl, hprepare, h₂⟩ :=
      Ends.of_bind (p := prepare engine.registry id) h₁
    have hprepares := prepares_of_ends hprepare
    rcases found with e | ⟨t, w⟩
    · obtain ⟨_, log₃, rfl, h₃⟩ := Ends.of_ask h₂
      obtain ⟨rfl, rfl⟩ := Ends.of_done h₃
      exact .givesBack hprepares
    · obtain ⟨executionId, log₃, rfl, h₃⟩ := Ends.of_ask h₂
      obtain ⟨_, log₄, rfl, h₄⟩ := Ends.of_ask h₃
      obtain ⟨stamped, log₅, rfl, h₅⟩ := Ends.of_ask h₄
      rcases stamped with e | _
      · obtain ⟨rfl, rfl⟩ := Ends.of_done h₅
        exact .startsUnstamped executionId e hprepares
      · obtain ⟨rfl, rfl⟩ := Ends.of_done h₅
        exact .starts executionId hprepares

/-- The ways a run that was started can go. Its result is that of the engine and is recorded, or the
engine refuses the workflow; then it gives the trigger back. -/
inductive Runs (engine : Engine) (run : TriggeredRun) :
    List Deed → Except Workflow.Invalid RunResult → Prop where
  | accepted {calls : List Deed} {result : RunResult} (saved : Except RepositoryError Unit) :
      run.workflow.validation.isValid = true →
      Ends (Serving.ofRunning engine (engine.execute run.workflow run.executionId)) calls
        (.ok result) →
      Runs engine run
        (calls ++ [⟨.repository (.saveRun result), saved⟩, ⟨.release run.triggerId, ()⟩])
          (.ok result)
  | refused : run.workflow.validation.isValid = false →
      engine.execute run.workflow run.executionId =
        .done (.error ⟨run.workflow.id, run.workflow.validation⟩) →
      Runs engine run [⟨.release run.triggerId, ()⟩]
        (.error ⟨run.workflow.id, run.workflow.validation⟩)

private theorem runs_of_ends {run : TriggeredRun} {outcome : Except Workflow.Invalid RunResult}
    (h : Ends (run.process engine) log outcome) : Runs engine run log outcome := by
  cases hvalid : run.workflow.validation.isValid with
  | true =>
    obtain ⟨ran, log₁, log₂, rfl, hrun, hrest⟩ := Ends.of_bind h
    obtain ⟨result, rfl, -⟩ := (Service.ensures_ofRunning engine
      (Service.execute_ensures engine hvalid run.executionId)).result hrun
    obtain ⟨saved, log₃, rfl, h₃⟩ := Ends.of_ask hrest
    obtain ⟨_, log₄, rfl, h₄⟩ := Ends.of_ask h₃
    obtain ⟨rfl, rfl⟩ := Ends.of_done h₄
    exact .accepted saved hvalid hrun
  | false =>
    have hrefused : engine.execute run.workflow run.executionId =
        .done (.error ⟨run.workflow.id, run.workflow.validation⟩) := by
      rw [Engine.execute, Workflow.ensureValid, if_neg (by simp [hvalid])]
    rw [TriggeredRun.process, hrefused] at h
    obtain ⟨_, log₁, rfl, h₁⟩ := Ends.of_ask h
    obtain ⟨rfl, rfl⟩ := Ends.of_done h₁
    exact .refused hvalid hrefused

end Parts

/-! ## The run as an activity -/

section Reached

variable {ρ : Type} {engine e : Engine} {rep : Answering ρ} {m : Shared ρ} {run : TriggeredRun}
  {before later : List (Interleaving.Event ServiceRequest ServiceRequest.Answer)} {n k : Nat}
  {s t u : Interleaving.State Activity (Shared ρ) ServiceRequest ServiceRequest.Answer
    Activity.Result}

theorem fires_of_reaches {id : Id} {now : Time.Instant} {past : List Deed}
    {r : Except FiringError Firing}
    {log : List (Interleaving.Event ServiceRequest ServiceRequest.Answer)}
    (h : (activities engine rep).Reaches m log s)
    (hp : s.parties[n]? = some ⟨.fire id now, past, .done (.fired r)⟩) :
    Fires engine id now (share n log) r := by
  obtain ⟨_, heq, hends⟩ := Ends.of_bind_done (p := fire engine id now)
    (g := Activity.Result.fired) (h.share_course hp)
  cases heq
  exact fires_of_ends hends

private theorem launched
    (h : (activities engine rep).Reaches m (before ++ (n, ⟨.launch e run, ()⟩) :: later) s) :
    ∃ (k : Nat) (t : _),
      (activities engine rep).Reaches m (before ++ [(n, ⟨.launch e run, ()⟩)]) t ∧
      t.parties[k]? = some ((activities engine rep).newcomer (.run e run)) ∧
      (activities engine rep).Course t later s := by
  obtain ⟨t, t', hbefore, hmove, hlater⟩ := Interleaving.Course.split h
  obtain ⟨p, next, hp, -, -, hparties, -⟩ := hmove.of_event
  refine ⟨t.parties.length, t', hbefore.move hmove, ?_, hlater⟩
  rw [hparties, List.getElem?_append_right (by simp)]
  simp [Interleaving.newcomers, activities, started]

/-- Before a call starts a run it reads the trigger and its workflow, which is valid. -/
theorem launched_of_prepares {registry : Registry} {id executionId : Id} {lookups : List Deed}
    {w : Workflow} {t : Trigger} {x : Deed}
    {log : List (Interleaving.Event ServiceRequest ServiceRequest.Answer)}
    (h : (activities engine rep).Reaches m log s)
    (hprepares : Prepares registry id lookups (.ok (t, w)))
    (hshare : share n log = ⟨.claim id, true⟩ :: (lookups ++
      [⟨.freshId, executionId⟩, ⟨.launch e ⟨id, executionId, w⟩, ()⟩, x])) :
    ∃ before later, ∃ k : Nat, ∃ u,
      log = before ++ (n, ⟨.launch e ⟨id, executionId, w⟩, ()⟩) :: later ∧
      (n, ⟨.repository (.getTrigger id), .ok (some t)⟩) ∈ before ∧
      (n, ⟨.repository (.getWorkflow t.workflowId), .ok (some w)⟩) ∈ before ∧
      w.revalidate registry = .ok () ∧ (n, x) ∈ later ∧
      (activities engine rep).Reaches m
        (before ++ [(n, ⟨.launch e ⟨id, executionId, w⟩, ()⟩)]) u ∧
      u.parties[k]? = some ((activities engine rep).newcomer (.run e ⟨id, executionId, w⟩)) ∧
      (activities engine rep).Course u later s := by
  cases hprepares with
  | valid _ _ hvalid =>
    -- what the call has asked lies on both sides of the start of the run
    have hsplit : share n log = [⟨.claim id, true⟩,
        ⟨.repository (.getTrigger id), .ok (some t)⟩,
        ⟨.repository (.getWorkflow t.workflowId), .ok (some w)⟩, ⟨.freshId, executionId⟩] ++
        ⟨.launch e ⟨id, executionId, w⟩, ()⟩ :: [x] := hshare
    obtain ⟨before, later, rfl, hbefore, hlater⟩ := Interleaving.share_eq_append hsplit
    obtain ⟨k, u, hu, hjoined, hcourse⟩ := launched h
    refine ⟨before, later, k, u, rfl, ?_, ?_, hvalid, ?_, hu, hjoined, hcourse⟩
    · exact Interleaving.mem_of_mem_share (by simp [hbefore])
    · exact Interleaving.mem_of_mem_share (by simp [hbefore])
    · exact Interleaving.mem_of_mem_share (by simp [hlater])

/-- What an activity comes to that was a run when it joined. -/
theorem run_ended {past : List Deed} {b : Activity.Result}
    (ht : t.parties[k]? = some ((activities engine rep).newcomer (.run e run)))
    (h : (activities engine rep).Course t later u)
    (hu : u.parties[k]? = some ⟨.run e run, past, .done b⟩) :
    ∃ outcome, b = .ran outcome ∧ Runs e run past outcome := by
  obtain ⟨q, hq, hcourse⟩ := h.party_course ht
  cases hu.symm.trans hq
  obtain ⟨outcome, rfl, hends⟩ := Ends.of_bind_done (p := run.process e)
    (g := Activity.Result.ran) hcourse
  exact ⟨outcome, rfl, runs_of_ends hends⟩

/-- A run can always go on to its end. -/
theorem exists_run_end (hrep : ∀ m r, ∃ a m', rep m r a m')
    (ht : t.parties[k]? = some ((activities engine rep).newcomer (.run e run)))
    (h : (activities engine rep).Course t later s) :
    ∃ log u past b, (activities engine rep).Course s log u ∧
      u.parties[k]? = some ⟨.run e run, past, .done b⟩ := by
  obtain ⟨q, hq, -⟩ := h.party_course ht
  obtain ⟨xs, b, shared, hends, hserves⟩ := Interleaving.exists_serves
    (i := activities engine rep) (Shared.exists_answer hrep) q s.shared
  obtain ⟨u, hcourse, hparty, -⟩ := Interleaving.Course.of_party hends hq hserves
  exact ⟨_, u, _, b, hcourse, hparty⟩

end Reached

end Automation.Trigger
