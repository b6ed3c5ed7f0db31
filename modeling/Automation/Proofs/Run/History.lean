import Automation.Proofs.Run.Preparation

/-!
# What records and calls go back to

Every record of a run goes back to a stage at which its step was ready: either it was skipped there,
or its call was attempted from there and the record holds the verdict. Every call goes back to such
a stage too, and all that had completed by then stands before the call among the events.
-/

namespace Automation.Run

variable {registry : Registry} {w : Workflow} {e : Engine} {now : Time.Instant} {s past : State}
  {remaining : List (Nat × Step)} {log : List Event}

/-- The step at a position was ready when a run stood here, before it came to stand there. -/
structure WasReady (w : Workflow) (past s : State) (i : Nat) (step : Step) : Prop where
  place : w.steps[i]? = some step
  consistent : Consistent w past
  within : past.Within s
  ready : isReady w past step = true

/-- How the record of a step that was ready came about. -/
inductive Origin (e : Engine) (w : Workflow) (now : Time.Instant) (log : List Event) (past : State)
    (i : Nat) (step : Step) : StepRecord → Prop where
  | skipped {reason : SkipReason} : prepare w past i step = .error reason →
      Origin e w now log past i step (skippedRecord step reason now)
  | attempted {c : StepCall} (answers : Nat → Option Outcome) : prepare w past i step = .ok c →
      (∀ k < (verdictOf e c answers).attempts, .called c k (answers k) ∈ log) →
      .recorded c (verdictOf e c answers) ∈ log →
        Origin e w now log past i step (attemptedRecord step (verdictOf e c answers) now)

/-- The outputs recorded so far are among the events. -/
def Noted (s : State) (log : List Event) : Prop :=
  ∀ p ∈ s.recorded, ∀ output, p.2.output = some output → ∃ c v, .recorded c v ∈ log ∧
    c.position = p.1 ∧ v.result = .ok output

private theorem WasReady.mono {t : State} {i : Nat} {step : Step} (h : WasReady w past s i step)
    (hst : s.Within t) : WasReady w past t i step :=
  ⟨h.place, h.consistent, h.within.trans hst, h.ready⟩

theorem Origin.mono {log' : List Event} {i : Nat} {step : Step} {r : StepRecord}
    (h : Origin e w now log past i step r) (hl : log ⊆ log') :
    Origin e w now log' past i step r := by
  cases h with
  | skipped hp => exact .skipped hp
  | attempted answers hp hcalls hrec =>
    exact .attempted answers hp (fun k hk => hl (hcalls k hk)) (hl hrec)

theorem mem_records {cs : List StepCall} {vs : List Verdict} {c : StepCall} {v : Verdict}
    (h : (c, v) ∈ cs.zip vs) : .recorded c v ∈ records cs vs := by
  rw [records, ← List.map_uncurry_zip_eq_zipWith]
  exact List.mem_map.mpr ⟨(c, v), h, rfl⟩

private theorem within_afterBatch (batch : List (Nat × Step)) (vs : List Verdict) :
    s.Within (afterBatch w now s batch vs) := by
  apply State.Within.of_subset
  rw [afterBatch_recorded]
  exact fun p hp => List.mem_append_right _ (List.mem_append_right _ hp)

/-! ## Records -/

theorem Origin.of_batch {batch : List (Nat × Step)} {vs : List Verdict}
    (hb : Attempted e (calls w s batch) log vs) {p : Nat × StepRecord}
    (hp : p ∈ (afterBatch w now s batch vs).recorded) :
    p ∈ s.recorded ∨ ∃ step, (p.1, step) ∈ batch ∧
      Origin e w now (log ++ records (calls w s batch) vs) s p.1 step p.2 := by
  rw [afterBatch_recorded, List.mem_append, List.mem_append, List.mem_reverse,
    List.mem_reverse] at hp
  rcases hp with hp | hp | hp
  · obtain ⟨⟨⟨i, step, c⟩, v⟩, hm, rfl⟩ := List.mem_map.mp hp
    obtain ⟨hbatch, hprep⟩ := mem_dispatches.mp (List.of_mem_zip hm).1
    have hzip : (c, v) ∈ (calls w s batch).zip vs := by
      rw [calls, List.zip_map_left]
      exact List.mem_map.mpr ⟨_, hm, rfl⟩
    obtain ⟨answers, rfl, hcalls⟩ := List.forall₂_zip hb.verdicts hzip
    refine .inr ⟨step, hbatch, .attempted answers hprep (fun k hk => ?_) ?_⟩
    · exact List.mem_append_left _ (hcalls k hk)
    · exact List.mem_append_right _ (mem_records hzip)
  · obtain ⟨⟨i, step, reason⟩, hm, rfl⟩ := List.mem_map.mp hp
    obtain ⟨hbatch, hprep⟩ := mem_skips.mp hm
    exact .inr ⟨step, hbatch, .skipped hprep⟩
  · exact .inl hp

/-- Every record has its origin at a stage at which the step was ready. -/
theorem Stage.origin (hw : w.Sound registry) (hp : w.errorPolicy = .continueOnFailure)
    (h : Stage e w now remaining s log) : ∀ p ∈ s.recorded, ∃ past step,
      WasReady w past s p.1 step ∧ Origin e w now log past p.1 step p.2 := by
  induction h with
  | start => simp
  | @batch remaining s log log' vs hs hr hb ih =>
    intro p hm
    rcases Origin.of_batch hb hm with hold | ⟨step, hbatch, horigin⟩
    · obtain ⟨past, step, hready, horigin⟩ := ih p hold
      exact ⟨past, step, hready.mono (within_afterBatch _ _),
        horigin.mono (List.subset_append_left _ _)⟩
    · have hstep := hs.tally.of_mem_nextBatch hbatch
      exact ⟨s, step, ⟨hstep, hs.consistent hw hp, within_afterBatch _ _,
        mem_nextBatch_ready hbatch⟩, horigin.mono (List.subset_append_right _ _)⟩

private theorem Stage.noted (hw : w.Sound registry) (hp : w.errorPolicy = .continueOnFailure)
    (h : Stage e w now remaining s log) : Noted s log := by
  intro p hm output hout
  obtain ⟨past, step, hready, horigin⟩ := h.origin hw hp p hm
  generalize hrec : p.2 = r at horigin hout
  cases horigin with
  | skipped => simp [skippedRecord] at hout
  | @attempted c answers hprep _ hnote =>
    refine ⟨c, _, hnote, (prepare_ok hready.ready hprep).1, ?_⟩
    cases hv : (verdictOf e c answers).result with
    | error text => simp [attemptedRecord, hv, Except.toOption] at hout
    | ok v => simpa [attemptedRecord, hv, Except.toOption] using hout

/-! ## Calls -/

private theorem append_eq_split {α : Type} {l₁ l₂ pre post : List α} {x : α}
    (h : l₁ ++ l₂ = pre ++ x :: post) :
    (∃ mid, l₁ = pre ++ x :: mid) ∨ ∃ mid, pre = l₁ ++ mid ∧ x ∈ l₂ := by
  rcases List.append_eq_append_iff.mp h with ⟨mid, rfl, rfl⟩ | ⟨mid, rfl, hx⟩
  · exact .inr ⟨mid, rfl, by simp⟩
  · cases mid with
    | nil => exact .inr ⟨[], by simp, by rw [← List.nil_append l₂, ← hx]; simp⟩
    | cons y mid =>
      obtain ⟨rfl, rfl⟩ := List.cons.inj hx
      exact .inl ⟨mid, rfl⟩

theorem Attempted.exists_prepare {batch : List (Nat × Step)} {vs : List Verdict}
    (hb : Attempted e (calls w s batch) log vs) {c : StepCall} {k : Nat} {a : Option Outcome}
    (h : .called c k a ∈ log ++ records (calls w s batch) vs) :
    ∃ p ∈ batch, prepare w s p.1 p.2 = .ok c := by
  have hcall : .called c k a ∈ log := by
    rcases List.mem_append.mp h with h | h
    · exact h
    · obtain ⟨_, _, hrec⟩ := List.mem_iff_getElem.mp h
      simp [records] at hrec
  obtain ⟨c', hc', k', a', he⟩ := hb.events _ hcall
  obtain ⟨rfl, rfl, rfl⟩ := Event.called.inj he
  obtain ⟨⟨i, step, c'⟩, hd, rfl⟩ := List.mem_map.mp hc'
  exact ⟨(i, step), mem_dispatches.mp hd⟩

theorem Stage.exists_prepare (h : Stage e w now remaining s log) {c : StepCall} {k : Nat}
    {a : Option Outcome} (hc : .called c k a ∈ log) : ∃ past step,
      w.steps[c.position]? = some step ∧ isReady w past step = true ∧
        prepare w past c.position step = .ok c := by
  induction h with
  | start => simp at hc
  | @batch remaining s log log' vs hs hr hb ih =>
    rcases List.mem_append.mp hc with hc | hc
    · exact ih hc
    · obtain ⟨⟨i, step⟩, hbatch, hprep⟩ := hb.exists_prepare hc
      have hready : isReady w s step = true := mem_nextBatch_ready hbatch
      obtain rfl := (prepare_ok hready hprep).1
      exact ⟨s, step, hs.tally.of_mem_nextBatch hbatch, hready, hprep⟩

/-- Every call is that of a step that was ready, and made after all that it is based on was
recorded. -/
theorem Stage.call_origin (hw : w.Sound registry) (hp : w.errorPolicy = .continueOnFailure)
    (h : Stage e w now remaining s log) {pre post : List Event} {c : StepCall} {k : Nat}
    {a : Option Outcome} (hlog : log = pre ++ .called c k a :: post) :
    ∃ past step, WasReady w past s c.position step ∧ prepare w past c.position step = .ok c ∧
      Noted past pre := by
  induction h generalizing post with
  | start => simp at hlog
  | @batch remaining s log log' vs hs hr hb ih =>
    rcases append_eq_split hlog with ⟨mid, hmid⟩ | ⟨mid, rfl, hx⟩
    · obtain ⟨past, step, hready, hprep, hnoted⟩ := ih hmid
      exact ⟨past, step, hready.mono (within_afterBatch _ _), hprep, hnoted⟩
    · obtain ⟨⟨i, step⟩, hbatch, hprep⟩ := hb.exists_prepare hx
      have hready : isReady w s step = true := mem_nextBatch_ready hbatch
      obtain rfl := (prepare_ok hready hprep).1
      have hstep := hs.tally.of_mem_nextBatch hbatch
      refine ⟨s, step, ⟨hstep, hs.consistent hw hp, within_afterBatch _ _, hready⟩, hprep, ?_⟩
      intro p hm output hout
      obtain ⟨c'', v, hnote, hv⟩ := hs.noted hw hp p hm output hout
      exact ⟨c'', v, List.mem_append_left _ hnote, hv⟩

/-! ## The end -/

theorem within_finish (left : List (Nat × Step)) : s.Within (finish now left s) :=
  .of_subset fun _ hp => mem_finish.mpr (.inl hp)

theorem Stage.finish_consistent (hw : w.Sound registry) (hp : w.errorPolicy = .continueOnFailure)
    (h : Stage e w now remaining s log) : Consistent w (finish now remaining s) := by
  have hfst : (neverReady remaining).map Prod.fst = remaining.map Prod.fst := by
    simp [neverReady, Function.comp_def]
  refine (h.consistent hw hp).skipAll (by rw [hfst]; exact h.tally.nodup) (fun x hx => ?_) now
  obtain ⟨p, hm, rfl⟩ := List.mem_map.mp hx
  exact h.tally.steps p hm

theorem Stage.recorded_or_remains (h : Stage e w now remaining s log) {i : Nat} {step : Step}
    (hstep : w.steps[i]? = some step) :
    (∃ r, (i, r) ∈ s.recorded) ∨ (i, step) ∈ remaining := by
  have hi : i ∈ List.range w.steps.length :=
    List.mem_range.mpr (List.getElem?_eq_some_iff.mp hstep).1
  rcases List.mem_append.mp (h.tally.perm.mem_iff.mpr hi) with hm | hm
  · obtain ⟨⟨j, step'⟩, hleft, rfl⟩ := List.mem_map.mp hm
    obtain rfl : step = step' := Option.some.inj (hstep.symm.trans (h.tally.steps _ hleft))
    exact .inr hleft
  · obtain ⟨⟨j, r⟩, hrec, rfl⟩ := List.mem_map.mp hm
    exact .inl ⟨r, hrec⟩

theorem not_isReady_of_left {left : List (Nat × Step)} (hr : ready w s left = []) {i : Nat}
    {step : Step} (h : (i, step) ∈ left) :
    ∃ d ∈ w.dependenciesOf step.id, s.recordOf? w.steps d = none := by
  have hnot : ¬ isReady w s step = true := (List.filter_eq_nil_iff.mp hr) (i, step) h
  rw [isReady_iff] at hnot
  simp only [not_forall, not_exists] at hnot
  obtain ⟨d, hd, hnone⟩ := hnot
  exact ⟨d, hd, Option.eq_none_iff_forall_ne_some.mpr hnone⟩

end Automation.Run
