import Automation.Proofs.Run.Batch

/-!
# What a batch does to a run

A batch takes steps from those that remain and records each of them once, the ones that were not
dispatched before the others. No position is lost and none is recorded twice.
-/

namespace Automation.Run

open scoped List

/-- The records of steps that are not dispatched. -/
def skipRecords (now : Time.Instant) (skipped : List (Nat × Step × SkipReason)) :
    List (Nat × StepRecord) :=
  skipped.map fun (i, step, reason) => (i, skippedRecord step reason now)

/-- The records of steps that were dispatched. -/
def attemptRecords (now : Time.Instant) (attempted : List ((Nat × Step × StepCall) × Verdict)) :
    List (Nat × StepRecord) :=
  attempted.map fun ((i, step, _), v) => (i, attemptedRecord step v now)

@[simp] theorem State.skip_recorded (s : State) (i : Nat) (step : Step) (reason : SkipReason)
    (now : Time.Instant) :
    (s.skip i step reason now).recorded = (i, skippedRecord step reason now) :: s.recorded := rfl

@[simp] theorem State.skip_outputs (s : State) (i : Nat) (step : Step) (reason : SkipReason)
    (now : Time.Instant) : (s.skip i step reason now).outputs = s.outputs := rfl

@[simp] theorem State.conclude_recorded (s : State) (policy : ErrorPolicy) (i : Nat) (step : Step)
    (v : Verdict) (now : Time.Instant) :
    (s.conclude policy i step v now).recorded = (i, attemptedRecord step v now) :: s.recorded := by
  unfold State.conclude
  dsimp only
  split <;> rfl

theorem State.skipAll_recorded (s : State) (now : Time.Instant)
    (skipped : List (Nat × Step × SkipReason)) :
    (s.skipAll now skipped).recorded = (skipRecords now skipped).reverse ++ s.recorded := by
  unfold State.skipAll skipRecords
  induction skipped generalizing s with
  | nil => rfl
  | cons x xs ih => simp [ih]

theorem State.concludeAll_recorded (s : State) (policy : ErrorPolicy) (now : Time.Instant)
    (attempted : List ((Nat × Step × StepCall) × Verdict)) :
    (s.concludeAll policy now attempted).recorded =
      (attemptRecords now attempted).reverse ++ s.recorded := by
  unfold State.concludeAll attemptRecords
  induction attempted generalizing s with
  | nil => rfl
  | cons x xs ih => simp [ih]

theorem afterBatch_recorded (w : Workflow) (now : Time.Instant) (s : State)
    (batch : List (Nat × Step)) (vs : List Verdict) :
    (afterBatch w now s batch vs).recorded =
      (attemptRecords now ((dispatches w s batch).zip vs)).reverse ++
        ((skipRecords now (skips w s batch)).reverse ++ s.recorded) := by
  rw [afterBatch, State.concludeAll_recorded, State.skipAll_recorded]

theorem mem_finish {now : Time.Instant} {s : State} {left : List (Nat × Step)}
    {p : Nat × StepRecord} : p ∈ (finish now left s).recorded ↔ p ∈ s.recorded ∨
      ∃ step, (p.1, step) ∈ left ∧ p.2 = skippedRecord step .neverReady now := by
  rw [finish, State.skipAll_recorded, List.mem_append, List.mem_reverse, or_comm]
  obtain ⟨i, r⟩ := p
  simp only [skipRecords, neverReady, List.map_map, List.mem_map, Function.comp_def,
    Prod.mk.injEq, Prod.exists]
  constructor
  · rintro (h | ⟨j, step, hm, rfl, rfl⟩)
    · exact .inl h
    · exact .inr ⟨step, hm, rfl⟩
  · rintro (h | ⟨step, hm, rfl⟩)
    · exact .inl h
    · exact .inr ⟨i, step, hm, rfl, rfl⟩

/-! ## The steps of a batch -/

theorem mem_skips {w : Workflow} {s : State} {batch : List (Nat × Step)} {i : Nat} {step : Step}
    {reason : SkipReason} : (i, step, reason) ∈ skips w s batch ↔
      (i, step) ∈ batch ∧ prepare w s i step = .error reason := by
  simp only [skips, List.mem_filterMap, Prod.exists]
  constructor
  · rintro ⟨j, t, hm, h⟩
    cases hp : prepare w s j t with
    | error r =>
      simp only [hp, Option.some.injEq, Prod.mk.injEq] at h
      obtain ⟨rfl, rfl, rfl⟩ := h
      exact ⟨hm, hp⟩
    | ok c => simp [hp] at h
  · rintro ⟨hm, hp⟩
    exact ⟨i, step, hm, by simp [hp]⟩

theorem mem_dispatches {w : Workflow} {s : State} {batch : List (Nat × Step)} {i : Nat}
    {step : Step} {c : StepCall} : (i, step, c) ∈ dispatches w s batch ↔
      (i, step) ∈ batch ∧ prepare w s i step = .ok c := by
  simp only [dispatches, List.mem_filterMap, Prod.exists]
  constructor
  · rintro ⟨j, t, hm, h⟩
    cases hp : prepare w s j t with
    | error r => simp [hp] at h
    | ok c =>
      simp only [hp, Option.some.injEq, Prod.mk.injEq] at h
      obtain ⟨rfl, rfl, rfl⟩ := h
      exact ⟨hm, hp⟩
  · rintro ⟨hm, hp⟩
    exact ⟨i, step, hm, by simp [hp]⟩

/-- Every step of a batch is dispatched or skipped, and none is both. -/
theorem dispatches_skips_perm (w : Workflow) (s : State) (batch : List (Nat × Step)) :
    ((dispatches w s batch).map Prod.fst ++ (skips w s batch).map Prod.fst).Perm
      (batch.map Prod.fst) := by
  induction batch with
  | nil => exact .nil
  | cons x batch ih =>
    obtain ⟨i, step⟩ := x
    unfold dispatches skips at ih ⊢
    cases hp : prepare w s i step with
    | ok c =>
      simp only [List.filterMap_cons, hp, List.map_cons, List.cons_append]
      exact ih.cons i
    | error r =>
      simp only [List.filterMap_cons, hp, List.map_cons]
      exact List.perm_middle.trans (ih.cons i)

private theorem nextBatch_sublist (concurrent : Bool) (w : Workflow) (s : State)
    (remaining : List (Nat × Step)) :
    (nextBatch concurrent (ready w s remaining)).Sublist remaining := by
  unfold nextBatch ready
  split
  · exact List.filter_sublist
  · exact (List.take_sublist _ _).trans List.filter_sublist

theorem mem_nextBatch_ready {concurrent : Bool} {w : Workflow} {s : State}
    {remaining : List (Nat × Step)} {p : Nat × Step}
    (h : p ∈ nextBatch concurrent (ready w s remaining)) : isReady w s p.2 = true := by
  have hr : p ∈ ready w s remaining := by
    unfold nextBatch at h
    split at h
    · exact h
    · exact List.mem_of_mem_take h
  exact (List.mem_filter.mp hr).2

theorem without_sublist (batch remaining : List (Nat × Step)) :
    (without batch remaining).Sublist remaining := List.filter_sublist

private theorem without_perm {batch remaining : List (Nat × Step)} (h : batch.Sublist remaining)
    (hn : (remaining.map Prod.fst).Nodup) : (without batch remaining ++ batch).Perm remaining := by
  unfold without
  induction h with
  | slnil => exact .nil
  | @cons batch remaining x hs ih =>
    obtain ⟨hx, hn⟩ := List.nodup_cons.mp hn
    have hout : (batch.any fun p => x.1 == p.1) = false := by
      simp only [List.any_eq_false, beq_iff_eq]
      intro p hp he
      exact hx (he ▸ List.mem_map_of_mem (hs.subset hp))
    rw [List.filter_cons_of_pos (by simp [hout]), List.cons_append]
    exact (ih hn).cons x
  | @cons_cons batch remaining x hs ih =>
    obtain ⟨hx, hn⟩ := List.nodup_cons.mp hn
    have htail : (remaining.filter fun p => !(x :: batch).any fun q => p.1 == q.1) =
        remaining.filter fun p => !batch.any fun q => p.1 == q.1 := by
      apply List.filter_congr
      intro p hp
      have hne : p.1 ≠ x.1 := fun he => hx (he ▸ List.mem_map_of_mem hp)
      simp [hne]
    rw [List.filter_cons_of_neg (by simp), htail]
    exact List.perm_middle.trans ((ih hn).cons x)

/-! ## Positions -/

/-- Which positions are still to be recorded and which are recorded already: together every one
once. -/
structure Tally (w : Workflow) (remaining : List (Nat × Step)) (s : State) : Prop where
  perm : (remaining.map Prod.fst ++ s.recorded.map Prod.fst).Perm (List.range w.steps.length)
  steps : ∀ p ∈ remaining, w.steps[p.1]? = some p.2

private theorem mem_positions {w : Workflow} {p : Nat × Step} (h : p ∈ positions w) :
    w.steps[p.1]? = some p.2 := by
  obtain ⟨k, hk⟩ := List.mem_iff_getElem?.mp h
  rw [positions, List.getElem?_zip_eq_some] at hk
  obtain ⟨hi, hs⟩ := hk
  rw [List.getElem?_range (List.getElem?_eq_some_iff.mp hs).1] at hi
  rw [← Option.some.inj hi, hs]

theorem positions_fst (w : Workflow) : (positions w).map Prod.fst = List.range w.steps.length := by
  rw [positions, List.map_fst_zip (by simp)]

private theorem Tally.start (w : Workflow) : Tally w (positions w) {} where
  perm := by simp [positions_fst]
  steps := fun _ => mem_positions

theorem Tally.nodup {w : Workflow} {remaining : List (Nat × Step)} {s : State}
    (h : Tally w remaining s) : (remaining.map Prod.fst ++ s.recorded.map Prod.fst).Nodup :=
  h.perm.nodup_iff.mpr List.nodup_range

theorem Tally.of_mem_nextBatch {w : Workflow} {remaining : List (Nat × Step)} {s : State}
    (h : Tally w remaining s) {concurrent : Bool} {p : Nat × Step}
    (hp : p ∈ nextBatch concurrent (ready w s remaining)) : w.steps[p.1]? = some p.2 :=
  h.steps p ((nextBatch_sublist concurrent w s remaining).subset hp)

private theorem attempted_fst {ds : List (Nat × Step × StepCall)} {vs : List Verdict}
    (hl : ds.length = vs.length) (now : Time.Instant) :
    (attemptRecords now (ds.zip vs)).map Prod.fst = ds.map Prod.fst := by
  have hz : (ds.zip vs).map Prod.fst = ds := List.map_fst_zip (by omega)
  conv_rhs => rw [← hz]
  simp [attemptRecords, Function.comp_def]

theorem skipRecords_fst (now : Time.Instant) (skipped : List (Nat × Step × SkipReason)) :
    (skipRecords now skipped).map Prod.fst = skipped.map Prod.fst := by
  simp [skipRecords, Function.comp_def]

theorem afterBatch_fst {w : Workflow} {s : State} {batch : List (Nat × Step)} {vs : List Verdict}
    (hl : (dispatches w s batch).length = vs.length) (now : Time.Instant) :
    (afterBatch w now s batch vs).recorded.map Prod.fst =
      ((skips w s batch).map Prod.fst ++ (dispatches w s batch).map Prod.fst).reverse ++
        s.recorded.map Prod.fst := by
  rw [afterBatch_recorded, List.map_append, List.map_append, List.map_reverse, List.map_reverse,
    attempted_fst hl, skipRecords_fst, List.reverse_append, List.append_assoc]

theorem skips_dispatches_perm (w : Workflow) (s : State) (batch : List (Nat × Step)) :
    ((skips w s batch).map Prod.fst ++ (dispatches w s batch).map Prod.fst).reverse ~
      batch.map Prod.fst :=
  (List.reverse_perm _).trans (List.perm_append_comm.trans (dispatches_skips_perm w s batch))

/-- A batch records just the positions that it takes. -/
theorem Tally.batch {w : Workflow} {remaining : List (Nat × Step)} {s : State}
    (h : Tally w remaining s) {batch : List (Nat × Step)} (hb : batch.Sublist remaining)
    {vs : List Verdict} (hl : (dispatches w s batch).length = vs.length) (now : Time.Instant) :
    Tally w (without batch remaining) (afterBatch w now s batch vs) where
  perm := by
    have hrest := (without_perm hb (List.nodup_append.mp h.nodup).1).map Prod.fst
    rw [List.map_append] at hrest
    rw [afterBatch_fst hl]
    calc (without batch remaining).map Prod.fst ++
          (((skips w s batch).map Prod.fst ++ (dispatches w s batch).map Prod.fst).reverse ++
            s.recorded.map Prod.fst)
        ~ (without batch remaining).map Prod.fst ++ (batch.map Prod.fst ++
            s.recorded.map Prod.fst) :=
          ((skips_dispatches_perm w s batch).append_right _).append_left _
      _ = (without batch remaining).map Prod.fst ++ batch.map Prod.fst ++
            s.recorded.map Prod.fst := (List.append_assoc _ _ _).symm
      _ ~ remaining.map Prod.fst ++ s.recorded.map Prod.fst := hrest.append_right _
      _ ~ List.range w.steps.length := h.perm
  steps := fun p hp => h.steps p ((without_sublist batch remaining).subset hp)

theorem Tally.rest {w : Workflow} {left : List (Nat × Step)} {s : State} (h : Tally w left s)
    (now : Time.Instant) : Tally w [] (finish now left s) where
  perm := by
    have hmap : (neverReady left).map Prod.fst = left.map Prod.fst := by
      simp [neverReady, Function.comp_def]
    rw [finish, State.skipAll_recorded, List.map_append, List.map_reverse, skipRecords_fst, hmap]
    exact ((List.reverse_perm _).append_right _).trans h.perm
  steps := by simp

theorem Attempted.length_eq {e : Engine} {w : Workflow} {s : State} {batch : List (Nat × Step)}
    {log : List Event} {vs : List Verdict} (h : Attempted e (calls w s batch) log vs) :
    (dispatches w s batch).length = vs.length := by
  simpa [calls] using h.verdicts.length_eq

theorem Stage.tally {e : Engine} {w : Workflow} {now : Time.Instant}
    {remaining : List (Nat × Step)} {s : State} {log : List Event}
    (h : Stage e w now remaining s log) : Tally w remaining s := by
  induction h with
  | start => exact .start w
  | batch _ _ hb ih => exact ih.batch (nextBatch_sublist _ _ _ _) hb.length_eq now

end Automation.Run
