import Automation.Proofs.Run.Account
import Automation.Proofs.Workflow.Validity

/-!
# Records and outputs

Without fail-fast a run keeps its outputs in step with its records: it holds the outputs of the
completed steps, each under the id of its step, and nothing else. Outputs are written once, so a
state that holds all records of another one holds all its outputs too.
-/

namespace Automation

/-- The record without its times. -/
def StepRecord.timeless (r : StepRecord) : StepRecord :=
  { r with startedAt := ⟨0, 0⟩, finishedAt := ⟨0, 0⟩ }

section Timeless

variable {q r : StepRecord} (h : q.timeless = r.timeless)
include h

private theorem StepRecord.stepId_of_timeless : q.stepId = r.stepId := by
  have := congrArg StepRecord.stepId h
  exact this

theorem StepRecord.status_of_timeless : q.status = r.status := by
  have := congrArg StepRecord.status h
  exact this

private theorem StepRecord.output_of_timeless : q.output = r.output := by
  have := congrArg StepRecord.output h
  exact this

end Timeless

namespace Run

open Json

/-! ## Records by id -/

private theorem positionOf?_go_notMem {id : String} {steps : List Step} (h : ∀ s ∈ steps, s.id ≠ id)
    (at_ : Nat) (found : Option Nat) : positionOf?.go id at_ found steps = found := by
  induction steps generalizing at_ found with
  | nil => rfl
  | cons s steps ih =>
    simp only [List.forall_mem_cons] at h
    rw [positionOf?.go, if_neg h.1, ih h.2]

private theorem positionOf?_go_mem {id : String} {steps : List Step} {at_ j : Nat}
    {found : Option Nat} (h : positionOf?.go id at_ found steps = some j) :
    found = some j ∨ ∃ k t, j = at_ + k ∧ steps[k]? = some t ∧ t.id = id := by
  induction steps generalizing at_ found with
  | nil => exact .inl h
  | cons s steps ih =>
    rcases ih h with hf | ⟨k, t, rfl, ht, hid⟩
    · by_cases hs : s.id = id
      · rw [if_pos hs, Option.some.injEq] at hf
        exact .inr ⟨0, s, hf.symm, rfl, hs⟩
      · rw [if_neg hs] at hf
        exact .inl hf
    · exact .inr ⟨k + 1, t, by omega, ht, hid⟩

private theorem positionOf?_go_eq {steps : List Step} (hn : (steps.map (·.id)).Nodup) {k : Nat}
    {t : Step} (h : steps[k]? = some t) (at_ : Nat) (found : Option Nat) :
    positionOf?.go t.id at_ found steps = some (at_ + k) := by
  induction steps generalizing k at_ found with
  | nil => simp at h
  | cons s steps ih =>
    obtain ⟨hs, hn⟩ := List.nodup_cons.mp hn
    rw [positionOf?.go]
    cases k with
    | zero =>
      obtain rfl : s = t := by simpa using h
      rw [if_pos rfl]
      exact positionOf?_go_notMem (fun u hu he => hs (List.mem_map.mpr ⟨u, hu, he⟩)) _ _
    | succ k =>
      rw [ih hn (by simpa using h)]
      congr 1
      omega

private theorem positionOf?_eq {steps : List Step} (hn : (steps.map (·.id)).Nodup) {k : Nat}
    {t : Step} (h : steps[k]? = some t) : positionOf? steps t.id = some k := by
  rw [positionOf?, positionOf?_go_eq hn h, Nat.zero_add]

private theorem State.record?_eq_some {s : State} (hn : (s.recorded.map Prod.fst).Nodup) {i : Nat}
    {r : StepRecord} : s.record? i = some r ↔ (i, r) ∈ s.recorded := by
  rw [State.record?]
  generalize s.recorded = l at hn
  induction l with
  | nil => simp
  | cons x l ih =>
    obtain ⟨j, q⟩ := x
    obtain ⟨hj, hn⟩ := List.nodup_cons.mp hn
    rw [List.lookup_cons, List.mem_cons]
    by_cases h : i = j
    · subst h
      have hout : (i, r) ∉ l := fun hm => hj (List.mem_map.mpr ⟨_, hm, rfl⟩)
      simp [hout, eq_comm]
    · simp [h, ih hn, beq_false_of_ne h]

theorem State.recordOf?_mem {s : State} {steps : List Step} (hn : (s.recorded.map Prod.fst).Nodup)
    {d : String} {r : StepRecord} (h : s.recordOf? steps d = some r) :
    ∃ j u, steps[j]? = some u ∧ u.id = d ∧ (j, r) ∈ s.recorded := by
  obtain ⟨j, hj, hr⟩ := Option.bind_eq_some_iff.mp h
  rcases positionOf?_go_mem hj with hf | ⟨k, u, rfl, hu, hid⟩
  · simp at hf
  · exact ⟨0 + k, u, by rwa [Nat.zero_add], hid, (State.record?_eq_some hn).mp hr⟩

theorem State.recordOf?_eq {s : State} {steps : List Step} (hn : (s.recorded.map Prod.fst).Nodup)
    (hids : (steps.map (·.id)).Nodup) {j : Nat} {u : Step} (hu : steps[j]? = some u)
    {r : StepRecord} (h : (j, r) ∈ s.recorded) : s.recordOf? steps u.id = some r := by
  rw [State.recordOf?, positionOf?_eq hids hu]
  exact (State.record?_eq_some hn).mpr h

/-! ## States that hold the same -/

/-- What a state holds of the steps recorded so far, if no failure halts the run: every output is
that of a completed step. -/
structure Consistent (w : Workflow) (s : State) : Prop where
  positions : (s.recorded.map Prod.fst).Nodup
  recorded : Recorded w s
  outputs : ∀ id v, Entries.get? s.outputs id = some v ↔
    ∃ p ∈ s.recorded, p.2.stepId = id ∧ p.2.status = .completed ∧ p.2.output = some v
  sorted : Entries.Sorted s.outputs
  halted : s.halted = false

/-- Every step recorded here is recorded there, up to times with the same record. -/
def State.Within (s t : State) : Prop :=
  ∀ p ∈ s.recorded, ∃ r, (p.1, r) ∈ t.recorded ∧ r.timeless = p.2.timeless

theorem State.Within.of_subset {s t : State} (h : s.recorded ⊆ t.recorded) : s.Within t :=
  fun p hp => ⟨p.2, h hp, rfl⟩

theorem State.Within.trans {s t u : State} (h : s.Within t) (h' : t.Within u) : s.Within u := by
  intro p hp
  obtain ⟨r, hr, he⟩ := h p hp
  obtain ⟨q, hq, he'⟩ := h' _ hr
  exact ⟨q, hq, he'.trans he⟩

variable {registry : Registry} {w : Workflow} {s t : State}

theorem Consistent.recordOf?_mem (hs : Consistent w s) {d : String} {r : StepRecord}
    (h : s.recordOf? w.steps d = some r) :
    ∃ j u, w.steps[j]? = some u ∧ u.id = d ∧ (j, r) ∈ s.recorded :=
  State.recordOf?_mem hs.positions h

theorem Consistent.recordOf?_eq (hs : Consistent w s) (hn : (w.steps.map (·.id)).Nodup) {j : Nat}
    {u : Step} (hu : w.steps[j]? = some u) {r : StepRecord} (h : (j, r) ∈ s.recorded) :
    s.recordOf? w.steps u.id = some r :=
  State.recordOf?_eq hs.positions hn hu h

theorem Consistent.recordOf?_within (hs : Consistent w s) (ht : Consistent w t) (h : s.Within t)
    (hn : (w.steps.map (·.id)).Nodup) {d : String} {r : StepRecord}
    (hr : s.recordOf? w.steps d = some r) :
    ∃ q, t.recordOf? w.steps d = some q ∧ q.timeless = r.timeless := by
  obtain ⟨j, u, hu, rfl, hm⟩ := hs.recordOf?_mem hr
  obtain ⟨q, hq, he⟩ := h _ hm
  exact ⟨q, ht.recordOf?_eq hn hu hq, he⟩

theorem Consistent.outputs_within (hs : Consistent w s) (ht : Consistent w t) (h : s.Within t)
    {id : String} {v : Value} (hv : Entries.get? s.outputs id = some v) :
    Entries.get? t.outputs id = some v := by
  obtain ⟨p, hp, hid, hc, ho⟩ := (hs.outputs id v).mp hv
  obtain ⟨q, hq, he⟩ := h p hp
  refine (ht.outputs id v).mpr ⟨_, hq, ?_, ?_, ?_⟩
  · rw [StepRecord.stepId_of_timeless he, hid]
  · rw [StepRecord.status_of_timeless he, hc]
  · rw [StepRecord.output_of_timeless he, ho]

/-- What stands under an id is the output of the completed step with the id. -/
theorem Consistent.get?_outputs_iff (hs : Consistent w s) (hn : (w.steps.map (·.id)).Nodup)
    {id : String} {v : Value} : Entries.get? s.outputs id = some v ↔
      ∃ r, s.recordOf? w.steps id = some r ∧ r.status = .completed ∧ r.output = some v := by
  rw [hs.outputs]
  constructor
  · rintro ⟨⟨j, r⟩, hm, hid, hc, ho⟩
    obtain ⟨-, u, hu, hof⟩ := hs.recorded _ hm
    rw [← hid, hof.stepId]
    exact ⟨r, hs.recordOf?_eq hn hu hm, hc, ho⟩
  · rintro ⟨r, hr, hc, ho⟩
    obtain ⟨j, u, hu, rfl, hm⟩ := hs.recordOf?_mem hr
    obtain ⟨-, u', hu', hof⟩ := hs.recorded _ hm
    obtain rfl : u = u' := Option.some.inj (hu.symm.trans hu')
    exact ⟨(j, r), hm, hof.stepId, hc, ho⟩

theorem Consistent.output_of_completed (hs : Consistent w s) {d : String} {r : StepRecord}
    (h : s.recordOf? w.steps d = some r) (hc : r.status = .completed) :
    ∃ v, Entries.get? s.outputs d = some v ∧ r.output = some v := by
  obtain ⟨j, u, hu, rfl, hm⟩ := hs.recordOf?_mem h
  obtain ⟨hfits, u', hu', hof⟩ := hs.recorded _ hm
  obtain rfl : u = u' := Option.some.inj (hu.symm.trans hu')
  simp only [StepRecord.Fits, hc] at hfits
  obtain ⟨v, hv⟩ := Option.isSome_iff_exists.mp hfits.1
  exact ⟨v, (hs.outputs _ v).mpr ⟨_, hm, hof.stepId, hc, hv⟩, hv⟩

/-! ## Recording a step -/

private theorem State.conclude_halted (s : State) (i : Nat) (step : Step) (v : Verdict)
    (now : Time.Instant) :
    (s.conclude .continueOnFailure i step v now).halted = s.halted := by
  unfold State.conclude
  cases v.result <;> simp

theorem State.conclude_outputs_of_error (s : State) (policy : ErrorPolicy) (i : Nat) (step : Step)
    {v : Verdict} {e : String} (h : v.result = .error e) (now : Time.Instant) :
    (s.conclude policy i step v now).outputs = s.outputs := by
  simp [State.conclude, h]

theorem State.conclude_outputs_of_ok (s : State) (policy : ErrorPolicy) (i : Nat) (step : Step)
    {v : Verdict} {output : Value} (h : v.result = .ok output) (now : Time.Instant) :
    (s.conclude policy i step v now).outputs = (s.outputs.add step.id output).2 := by
  simp [State.conclude, h]

private theorem Consistent.skip (hs : Consistent w s) {i : Nat} (hi : i ∉ s.recorded.map Prod.fst)
    {step : Step} (hstep : w.steps[i]? = some step) (reason : SkipReason) (now : Time.Instant) :
    Consistent w (s.skip i step reason now) where
  positions := List.nodup_cons.mpr ⟨hi, hs.positions⟩
  recorded := by
    intro p hp
    rcases List.mem_cons.mp hp with rfl | hp
    · exact ⟨skippedRecord_fits _ _ _, step, hstep, skippedRecord_isOf _ _ _⟩
    · exact hs.recorded p hp
  outputs := fun id v => by
    rw [State.skip_outputs, hs.outputs, State.skip_recorded]
    simp [skippedRecord]
  sorted := hs.sorted
  halted := hs.halted

private theorem Consistent.get?_eq_none (hs : Consistent w s) (hn : (w.steps.map (·.id)).Nodup)
    {i : Nat} (hi : i ∉ s.recorded.map Prod.fst) {step : Step} (hstep : w.steps[i]? = some step) :
    Entries.get? s.outputs step.id = none := by
  by_contra hne
  obtain ⟨v, hv⟩ := Option.ne_none_iff_exists'.mp hne
  obtain ⟨⟨j, r⟩, hp, hid, -⟩ := (hs.outputs _ v).mp hv
  obtain ⟨-, u, hu, hof⟩ := hs.recorded _ hp
  have hj : positionOf? w.steps step.id = some j := by
    rw [← hid, hof.stepId]
    exact positionOf?_eq hn hu
  rw [positionOf?_eq hn hstep, Option.some.injEq] at hj
  exact hi (hj ▸ List.mem_map_of_mem hp)

private theorem Consistent.conclude (hs : Consistent w s) (hn : (w.steps.map (·.id)).Nodup)
    {i : Nat}
    (hi : i ∉ s.recorded.map Prod.fst) {step : Step} (hstep : w.steps[i]? = some step) (v : Verdict)
    (now : Time.Instant) : Consistent w (s.conclude .continueOnFailure i step v now) where
  positions := by
    rw [State.conclude_recorded]
    exact List.nodup_cons.mpr ⟨hi, hs.positions⟩
  recorded := by
    intro p hp
    rw [State.conclude_recorded, List.mem_cons] at hp
    rcases hp with rfl | hp
    · exact ⟨attemptedRecord_fits _ _ _, step, hstep, attemptedRecord_isOf _ _ _⟩
    · exact hs.recorded p hp
  outputs := fun id u => by
    rw [State.conclude_recorded]
    cases hv : v.result with
    | error e =>
      rw [s.conclude_outputs_of_error _ _ _ hv, hs.outputs]
      simp [attemptedRecord, hv]
    | ok output =>
      have hnone := hs.get?_eq_none hn hi hstep
      have hnew : Entries.has s.outputs step.id = false := by simp [Entries.has, hnone]
      rw [s.conclude_outputs_of_ok _ _ _ hv, Outputs.add, hnew]
      simp only [Bool.false_eq_true, if_false, Entries.get?_insert, List.mem_cons,
        exists_eq_or_imp, attemptedRecord, hv, Except.toOption, true_and]
      by_cases hid : step.id = id
      · subst hid
        rw [if_pos rfl, ← hs.outputs, hnone]
        simp
      · rw [if_neg hid, hs.outputs]
        simp [hid]
  sorted := by
    cases hv : v.result with
    | error e =>
      rw [s.conclude_outputs_of_error _ _ _ hv]
      exact hs.sorted
    | ok output =>
      rw [s.conclude_outputs_of_ok _ _ _ hv, Outputs.add]
      split
      · exact hs.sorted
      · exact Entries.sorted_insert hs.sorted _ _
  halted := by rw [State.conclude_halted, hs.halted]

/-! ## Recording a batch -/

theorem Consistent.skipAll (hs : Consistent w s) {skipped : List (Nat × Step × SkipReason)}
    (hi : (skipped.map Prod.fst ++ s.recorded.map Prod.fst).Nodup)
    (hsteps : ∀ x ∈ skipped, w.steps[x.1]? = some x.2.1) (now : Time.Instant) :
    Consistent w (s.skipAll now skipped) := by
  induction skipped generalizing s with
  | nil => exact hs
  | cons x skipped ih =>
    obtain ⟨i, step, reason⟩ := x
    have hout : i ∉ s.recorded.map Prod.fst :=
      fun hm => (List.nodup_cons.mp hi).1 (List.mem_append_right _ hm)
    simp only [List.forall_mem_cons] at hsteps
    refine ih (hs.skip hout hsteps.1 reason now) ?_ hsteps.2
    rw [State.skip_recorded]
    exact List.perm_middle.nodup_iff.mpr hi

private theorem Consistent.concludeAll (hs : Consistent w s) (hn : (w.steps.map (·.id)).Nodup)
    {attempted : List ((Nat × Step × StepCall) × Verdict)}
    (hi : ((attempted.map Prod.fst).map Prod.fst ++ s.recorded.map Prod.fst).Nodup)
    (hsteps : ∀ x ∈ attempted, w.steps[x.1.1]? = some x.1.2.1) (now : Time.Instant) :
    Consistent w (s.concludeAll .continueOnFailure now attempted) := by
  induction attempted generalizing s with
  | nil => exact hs
  | cons x attempted ih =>
    obtain ⟨⟨i, step, c⟩, v⟩ := x
    have hout : i ∉ s.recorded.map Prod.fst :=
      fun hm => (List.nodup_cons.mp hi).1 (List.mem_append_right _ hm)
    simp only [List.forall_mem_cons] at hsteps
    refine ih (hs.conclude hn hout hsteps.1 v now) ?_ hsteps.2
    rw [State.conclude_recorded]
    exact List.perm_middle.nodup_iff.mpr hi

theorem Stage.consistent (hw : w.Sound registry) (hp : w.errorPolicy = .continueOnFailure)
    {e : Engine} {now : Time.Instant} {remaining : List (Nat × Step)} {log : List Event}
    (h : Stage e w now remaining s log) : Consistent w s := by
  induction h with
  | start =>
    constructor
    case positions => exact List.nodup_nil
    case recorded => simp [Recorded]
    case outputs => simp
    case sorted => exact List.Pairwise.nil
    case halted => rfl
  | @batch remaining s log log' vs hs hr hb ih =>
    set batch := nextBatch e.settings.concurrent (ready w s remaining)
    have hsteps : ∀ p ∈ batch, w.steps[p.1]? = some p.2 := fun p hm => hs.tally.of_mem_nextBatch hm
    have hall := (hs.batch hr hb).tally.nodup.of_append_right
    rw [afterBatch_fst hb.length_eq, List.reverse_append, List.append_assoc] at hall
    have hskips : ((skips w s batch).map Prod.fst ++ s.recorded.map Prod.fst).Nodup :=
      ((List.reverse_perm _).append_right _).nodup_iff.mp hall.of_append_right
    have hskipped : Consistent w (s.skipAll now (skips w s batch)) :=
      ih.skipAll hskips (fun x hx => hsteps (x.1, x.2.1) (mem_skips.mp hx).1) now
    rw [afterBatch, hp]
    refine hskipped.concludeAll hw.ids ?_ (fun x hx => ?_) now
    · have hz : ((dispatches w s batch).zip vs).map Prod.fst = dispatches w s batch :=
        List.map_fst_zip (Nat.le_of_eq hb.length_eq)
      rw [hz, State.skipAll_recorded, List.map_append, List.map_reverse, skipRecords_fst]
      exact ((List.reverse_perm _).append_right _).nodup_iff.mp hall
    · obtain ⟨⟨i, step, c⟩, v⟩ := x
      exact hsteps (i, step) (mem_dispatches.mp (List.of_mem_zip hx).1).1

end Run

end Automation
