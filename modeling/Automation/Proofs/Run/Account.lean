import Automation.Proofs.Run.State

/-!
# The account of a run

Whatever the dependencies of a workflow say, its run ends with one record for every step that it
declares. The counts add up to the number of steps, the status of the run follows from those of the
records, and a record holds what its status promises. A workflow that is not valid does not run.
-/

namespace Automation

/-- A record names the step. -/
structure StepRecord.IsOf (r : StepRecord) (s : Step) : Prop where
  stepId : r.stepId = s.id
  driver : r.driver = s.driver
  operation : r.operation = s.operation

/-- A completed record has an output and no error, any other an error and no output; a skipped one
has no attempts either. -/
def StepRecord.Fits (r : StepRecord) : Prop :=
  match r.status with
  | .completed => r.output.isSome ∧ r.error = none
  | .failed => r.output = none ∧ r.error.isSome
  | .skipped => r.output = none ∧ r.error.isSome ∧ r.attempts = 0

/-- The account of a run is complete: every step is recorded once, and the counts and the status
are those of the records. -/
structure RunResult.Accounts (w : Workflow) (r : RunResult) : Prop where
  order : ∃ order : List Nat, order.Perm (List.range w.steps.length) ∧
    List.Forall₂ (fun i rec => ∃ s, w.steps[i]? = some s ∧ rec.IsOf s) order r.steps
  total : r.total = w.steps.length
  succeeded : r.succeeded = r.steps.countP (·.status = .completed)
  failed : r.failed = r.steps.countP (·.status = .failed)
  skipped : r.skipped = r.steps.countP (·.status = .skipped)
  sum : r.succeeded + r.failed + r.skipped = r.total
  completed_iff : r.status = .completed ↔ ∀ rec ∈ r.steps, rec.status = .completed
  failed_iff : r.status = .failed ↔ w.steps ≠ [] ∧ ∀ rec ∈ r.steps, rec.status ≠ .completed
  partially_iff : r.status = .partiallyFailed ↔
    (∃ rec ∈ r.steps, rec.status = .completed) ∧ ∃ rec ∈ r.steps, rec.status ≠ .completed
  fits : ∀ rec ∈ r.steps, rec.Fits

namespace Run

/-! ## Records -/

theorem skippedRecord_fits (step : Step) (reason : SkipReason) (now : Time.Instant) :
    (skippedRecord step reason now).Fits := ⟨rfl, rfl, rfl⟩

theorem attemptedRecord_fits (step : Step) (v : Verdict) (now : Time.Instant) :
    (attemptedRecord step v now).Fits := by
  obtain ⟨attempts, result⟩ := v
  cases result <;> exact ⟨rfl, rfl⟩

theorem skippedRecord_isOf (step : Step) (reason : SkipReason) (now : Time.Instant) :
    (skippedRecord step reason now).IsOf step := ⟨rfl, rfl, rfl⟩

theorem attemptedRecord_isOf (step : Step) (v : Verdict) (now : Time.Instant) :
    (attemptedRecord step v now).IsOf step := ⟨rfl, rfl, rfl⟩

/-- The recorded steps stand under their positions. -/
def Recorded (w : Workflow) (s : State) : Prop :=
  ∀ p ∈ s.recorded, p.2.Fits ∧ ∃ step, w.steps[p.1]? = some step ∧ p.2.IsOf step

private theorem Recorded.skipAll {w : Workflow} {s : State} (h : Recorded w s) (now : Time.Instant)
    {skipped : List (Nat × Step × SkipReason)}
    (hs : ∀ x ∈ skipped, w.steps[x.1]? = some x.2.1) : Recorded w (s.skipAll now skipped) := by
  intro p hp
  rw [State.skipAll_recorded, List.mem_append, List.mem_reverse] at hp
  rcases hp with hp | hp
  · obtain ⟨⟨i, step, reason⟩, hm, rfl⟩ := List.mem_map.mp hp
    exact ⟨skippedRecord_fits _ _ _, step, hs _ hm, skippedRecord_isOf _ _ _⟩
  · exact h p hp

private theorem Recorded.batch {w : Workflow} {s : State} (h : Recorded w s)
    {batch : List (Nat × Step)} (hb : ∀ p ∈ batch, w.steps[p.1]? = some p.2)
    (vs : List Verdict) (now : Time.Instant) : Recorded w (afterBatch w now s batch vs) := by
  have hskip : Recorded w (s.skipAll now (skips w s batch)) :=
    h.skipAll now fun x hx => hb (x.1, x.2.1) (mem_skips.mp hx).1
  intro p hp
  rw [afterBatch, State.concludeAll_recorded, List.mem_append, List.mem_reverse] at hp
  rcases hp with hp | hp
  · obtain ⟨⟨⟨i, step, c⟩, v⟩, hm, rfl⟩ := List.mem_map.mp hp
    have hd := (mem_dispatches.mp (List.of_mem_zip hm).1).1
    exact ⟨attemptedRecord_fits _ _ _, step, hb _ hd, attemptedRecord_isOf _ _ _⟩
  · exact hskip p hp

theorem Stage.recorded {e : Engine} {w : Workflow} {now : Time.Instant}
    {remaining : List (Nat × Step)} {s : State} {log : List Event}
    (h : Stage e w now remaining s log) : Recorded w s := by
  induction h with
  | start => simp [Recorded]
  | batch hs _ _ ih =>
    exact ih.batch (fun p hp => hs.tally.of_mem_nextBatch hp) _ now

/-! ## Counts and status -/

private theorem countP_statuses (rs : List StepRecord) :
    rs.countP (·.status = .completed) + rs.countP (·.status = .failed) +
      rs.countP (·.status = .skipped) = rs.length := by
  induction rs with
  | nil => rfl
  | cons r rs ih =>
    simp only [List.countP_cons, List.length_cons]
    cases r.status <;> simp <;> omega

private theorem overallStatus_eq_completed {total succeeded : Nat} :
    overallStatus total succeeded = .completed ↔ succeeded = total := by
  unfold overallStatus
  by_cases h : succeeded = total
  · simp [h]
  · by_cases h' : succeeded = 0 <;> simp [h, h']

private theorem overallStatus_eq_failed {total succeeded : Nat} :
    overallStatus total succeeded = .failed ↔ 0 < total ∧ succeeded = 0 := by
  unfold overallStatus
  by_cases h : succeeded = total
  · rw [if_pos h]
    simp
    omega
  · rw [if_neg h]
    by_cases h' : succeeded = 0
    · simp [h']
      omega
    · simp [h']

private theorem overallStatus_eq_partiallyFailed {total succeeded : Nat} :
    overallStatus total succeeded = .partiallyFailed ↔ succeeded ≠ 0 ∧ succeeded ≠ total := by
  unfold overallStatus
  by_cases h : succeeded = total
  · simp [h]
  · rw [if_neg h]
    by_cases h' : succeeded = 0 <;> simp [h, h']

private theorem countP_completed_eq_length {rs : List StepRecord} :
    rs.countP (·.status = .completed) = rs.length ↔ ∀ r ∈ rs, r.status = .completed := by
  simp [List.countP_eq_length]

private theorem countP_completed_eq_zero {rs : List StepRecord} :
    rs.countP (·.status = .completed) = 0 ↔ ∀ r ∈ rs, r.status ≠ .completed := by
  simp [List.countP_eq_zero]

private theorem result_accounts {w : Workflow} {s : State} (ht : Tally w [] s) (hr : Recorded w s)
    (id : Id) (started finished : Time.Instant) : (result w id started finished s).Accounts w := by
  let rs := (s.recorded.map Prod.snd).reverse
  have hperm : ((s.recorded.map Prod.fst).reverse).Perm (List.range w.steps.length) :=
    (List.reverse_perm _).trans ht.perm
  have hlen : rs.length = w.steps.length := by
    have := hperm.length_eq
    simpa [rs] using this
  have hcount (status : StepStatus) : (rs.filter (·.status = status)).length =
      rs.countP (·.status = status) := List.countP_eq_length_filter.symm
  have hstatus : (result w id started finished s).status =
      overallStatus rs.length (rs.countP (·.status = .completed)) := by
    rw [hlen, ← hcount]
    rfl
  have hmem : ∀ rec ∈ rs, ∃ i, (i, rec) ∈ s.recorded := by
    intro rec hrec
    obtain ⟨⟨i, r⟩, hm, rfl⟩ := List.mem_map.mp (List.mem_reverse.mp hrec)
    exact ⟨i, hm⟩
  constructor
  case order =>
    refine ⟨(s.recorded.map Prod.fst).reverse, hperm, ?_⟩
    change List.Forall₂ _ (s.recorded.map Prod.fst).reverse (s.recorded.map Prod.snd).reverse
    rw [List.forall₂_reverse_iff, List.forall₂_map_left_iff, List.forall₂_map_right_iff,
      List.forall₂_same]
    exact fun p hp => (hr p hp).2
  case total => rfl
  case succeeded => exact hcount _
  case failed => exact hcount _
  case skipped => exact hcount _
  case sum =>
    change (rs.filter _).length + (rs.filter _).length + (rs.filter _).length = w.steps.length
    rw [hcount, hcount, hcount, countP_statuses, hlen]
  case completed_iff =>
    rw [hstatus, overallStatus_eq_completed]
    exact countP_completed_eq_length
  case failed_iff =>
    rw [hstatus, overallStatus_eq_failed, countP_completed_eq_zero, hlen, List.length_pos_iff]
    rfl
  case partially_iff =>
    rw [hstatus, overallStatus_eq_partiallyFailed, Ne, Ne, countP_completed_eq_zero,
      countP_completed_eq_length]
    simp only [not_forall, exists_prop, not_not]
    rfl
  case fits =>
    intro rec hrec
    obtain ⟨i, hm⟩ := hmem rec hrec
    exact (hr _ hm).1

end Run

/-- Every valid workflow, however its dependencies are tangled, is run to an end by every course:
no course goes on for ever, each can be brought to an end whatever the drivers answer, and the end
is an account of all steps. A workflow that is not valid gives its report and calls no driver. -/
theorem Engine.execute_accounts (e : Engine) (w : Workflow) (id : Id) :
    (w.validation.isValid = true →
      Run.Terminates e (.asking (e.execute w id)) ∧
      (∀ log p, Run.Course e (.asking (e.execute w id)) log p → ∀ answer, ∃ log' r,
        Run.Course e p log' (.asking (.done (.ok r))) ∧ Run.Obeys answer log') ∧
      ∀ log x, Run.Ends e (e.execute w id) log x → ∃ r, x = .ok r ∧ r.Accounts w) ∧
    (w.validation.isValid = false → ∀ log p, Run.Course e (.asking (e.execute w id)) log p →
      log = [] ∧ p = .asking (.done (.error ⟨w.id, w.validation⟩))) := by
  constructor
  · intro hw
    have hends : ∀ log x, Run.Ends e (e.execute w id) log x → ∃ r, x = .ok r ∧ r.Accounts w := by
      intro log x h
      obtain ⟨started, finished, left, s, rfl, hs, -⟩ := Run.Stage.of_ends hw h
      refine ⟨_, rfl, Run.result_accounts (hs.tally.rest started) ?_ id _ _⟩
      refine hs.recorded.skipAll started fun x hx => ?_
      obtain ⟨p, hp, rfl⟩ := List.mem_map.mp hx
      exact hs.tally.steps p hp
    refine ⟨Run.terminates e _, fun log p hc answer => ?_, hends⟩
    obtain ⟨log', x, hc', ho⟩ := p.reaches_end e answer
    obtain ⟨r, rfl, -⟩ := hends _ x (hc.trans hc')
    exact ⟨log', r, hc', ho⟩
  · intro hw log p hc
    have hexec : e.execute w id = .done (.error ⟨w.id, w.validation⟩) := by
      simp [Engine.execute, Workflow.ensureValid, hw]
    rw [hexec] at hc
    exact hc.of_done

/-- Two steps with one id, a step that waits for itself, and one that waits for nobody knows what.
-/
def Run.tangled : Workflow where
  schemaVersion := Automation.schemaVersion
  id := .zero
  name := "tangled"
  templateId := none
  steps := [⟨"a", "mail", "send", [], []⟩, ⟨"a", "mail", "send", [], []⟩,
    ⟨"b", "mail", "send", [], ["b"]⟩, ⟨"c", "mail", "send", [], ["z"]⟩]
  dependencies := [("b", ["b"]), ("c", ["z"])]
  errorPolicy := .failFast
  parameters := []
  validation := { isValid := true }
  createdAt := ⟨0, 0⟩

theorem Engine.execute_accounts_tangled :
    let e : Engine := ⟨{}, { concurrent := true, maxRetries := 2 }⟩
    (Run.tangled.validation.isValid = true ∧ ∃ log r,
      Run.Ends e (e.execute Run.tangled .zero) log (.ok r) ∧ r.Accounts Run.tangled) ∧
    ({ Run.tangled with validation := {} } : Workflow).validation.isValid = false ∧
      ∀ log p,
        Run.Course e (.asking (e.execute { Run.tangled with validation := {} } .zero)) log p →
          log = [] := by
  intro e
  obtain ⟨-, hend, hacc⟩ := (Engine.execute_accounts e Run.tangled .zero).1 rfl
  obtain ⟨log, r, hc, -⟩ := hend [] _ (.stay _) fun _ _ => none
  obtain ⟨r', hr, ha⟩ := hacc log _ hc
  obtain rfl := Except.ok.inj hr
  exact ⟨⟨rfl, log, r, hc, ha⟩, rfl, fun log p h =>
    ((Engine.execute_accounts e { Run.tangled with validation := {} } .zero).2 rfl log p h).1⟩

end Automation
