import Automation.Proofs.Run.Explained
import Automation.Proofs.Workflow.Acyclicity

/-!
# What validation spares a run

As long as a step of a valid workflow remains, one of them is ready: no run comes to steps that wait
for each other. Every driver that a step names is there, and a step that is ready is never skipped
because a step it refers to has no output. This holds under both policies, for waves and single
steps, and whatever the drivers answer.
-/

namespace Automation

namespace Outputs

open Json

private theorem get?_add_of_some {o : Outputs} {id key : String} {output v : Value}
    (h : Entries.get? o key = some v) : Entries.get? (o.add id output).2 key = some v := by
  unfold add
  split
  · exact h
  · next hnew =>
    have hne : id ≠ key := by
      rintro rfl
      simp [Entries.has, h] at hnew
    rw [Entries.get?_insert, if_neg hne, h]

private theorem exists_get?_add (o : Outputs) (id : String) (output : Value) :
    ∃ v, Entries.get? (o.add id output).2 id = some v := by
  unfold add
  split
  · next hhas => exact Option.isSome_iff_exists.mp hhas
  · exact ⟨output, by rw [Entries.get?_insert, if_pos rfl]⟩

end Outputs

namespace Run

variable {registry : Registry} {w : Workflow} {e : Engine} {now : Time.Instant} {s : State}
  {remaining : List (Nat × Step)} {log : List Event}

/-! ## Outputs of completed steps -/

/-- Something stands among the outputs for every step that has completed. -/
def Kept (s : State) : Prop :=
  ∀ p ∈ s.recorded, p.2.status = .completed → ∃ v, Entries.get? s.outputs p.2.stepId = some v

private theorem Kept.skip (h : Kept s) (i : Nat) (step : Step) (reason : SkipReason)
    (now : Time.Instant) : Kept (s.skip i step reason now) := by
  intro p hp hc
  rw [State.skip_recorded, List.mem_cons] at hp
  rcases hp with rfl | hp
  · simp [skippedRecord] at hc
  · exact h p hp hc

private theorem Kept.conclude (h : Kept s) (policy : ErrorPolicy) (i : Nat) (step : Step)
    (v : Verdict) (now : Time.Instant) : Kept (s.conclude policy i step v now) := by
  intro p hp hc
  rw [State.conclude_recorded, List.mem_cons] at hp
  cases hv : v.result with
  | error err =>
    rw [State.conclude_outputs_of_error _ _ _ _ hv]
    rcases hp with rfl | hp
    · simp [attemptedRecord, hv] at hc
    · exact h p hp hc
  | ok output =>
    rw [State.conclude_outputs_of_ok _ _ _ _ hv]
    rcases hp with rfl | hp
    · exact Outputs.exists_get?_add _ step.id output
    · obtain ⟨u, hu⟩ := h p hp hc
      exact ⟨u, Outputs.get?_add_of_some hu⟩

private theorem Kept.skipAll (h : Kept s) (now : Time.Instant)
    (skipped : List (Nat × Step × SkipReason)) : Kept (s.skipAll now skipped) := by
  induction skipped generalizing s with
  | nil => exact h
  | cons x skipped ih => exact ih (h.skip x.1 x.2.1 x.2.2 now)

private theorem Kept.concludeAll (h : Kept s) (policy : ErrorPolicy) (now : Time.Instant)
    (attempted : List ((Nat × Step × StepCall) × Verdict)) :
    Kept (s.concludeAll policy now attempted) := by
  induction attempted generalizing s with
  | nil => exact h
  | cons x attempted ih => exact ih (h.conclude policy x.1.1 x.1.2.1 x.2 now)

private theorem Stage.kept (h : Stage e w now remaining s log) : Kept s := by
  induction h with
  | start => simp [Kept]
  | batch _ _ _ ih => exact (ih.skipAll _ _).concludeAll _ _ _

/-! ## Stages -/

theorem Stage.nodup (h : Stage e w now remaining s log) : (s.recorded.map Prod.fst).Nodup :=
  h.tally.nodup.of_append_right

private theorem Stage.exists_precedes (hw : w.Sound registry) (h : Stage e w now remaining s log)
    {step : Step} (hstep : step ∈ w.steps) (hnot : ¬ isReady w s step = true) :
    ∃ q ∈ remaining, w.Precedes q.2.id step.id := by
  rw [isReady_iff] at hnot
  push Not at hnot
  obtain ⟨d, hd, hnone⟩ := hnot
  obtain ⟨t, ht, rfl⟩ := hw.declared step hstep d (hw.dependencies step hstep ▸ hd)
  obtain ⟨j, hj⟩ := List.mem_iff_getElem?.mp ht
  rcases h.recorded_or_remains hj with ⟨r, hr⟩ | hleft
  · exact absurd (State.recordOf?_eq h.nodup hw.ids hj hr) (hnone r)
  · exact ⟨(j, t), hleft, hd⟩

/-- As long as steps remain one of them is ready. -/
theorem Stage.ready_ne_nil (hw : w.Sound registry) (hwf : WellFounded w.Precedes)
    (h : Stage e w now remaining s log) (hne : remaining ≠ []) : ready w s remaining ≠ [] := by
  obtain ⟨p, hp⟩ := List.exists_mem_of_ne_nil _ hne
  -- go back along what the step waits for, to one that waits for nothing that remains
  induction hid : p.2.id using hwf.induction generalizing p with
  | h id ih =>
    by_cases hready : isReady w s p.2 = true
    · exact List.ne_nil_of_mem (List.mem_filter.mpr ⟨hp, hready⟩)
    · have hstep : p.2 ∈ w.steps := List.mem_of_getElem? (h.tally.steps p hp)
      obtain ⟨q, hq, hprec⟩ := h.exists_precedes hw hstep hready
      exact ih q.2.id (hid ▸ hprec) q hq rfl

private theorem Stage.noField_of_unresolved (hw : w.Sound registry)
    (h : Stage e w now remaining s log)
    {step : Step} (hstep : step ∈ w.steps) (hready : isReady w s step = true)
    (hb : blocker? w s step = none) {err : Outputs.Error}
    (herr : Outputs.resolveMembers s.outputs step.parameters = .error err) :
    ∃ ref field, err = .noField ref field := by
  obtain ⟨ref, href, hlookup⟩ := Outputs.resolveMembers_error _ herr
  rcases Outputs.lookup_error hlookup with ⟨hnone, -⟩ | ⟨-, field, -, -, -, rfl⟩
  · have hd : ref.stepId ∈ w.dependenciesOf step.id := by
      rw [hw.dependencies step hstep]
      exact Step.mem_dependencies_of_reference href
    obtain ⟨r, hr, hc⟩ := (blocker?_eq_none hready).mp hb _ hd
    obtain ⟨j, u, hu, hid, hm⟩ := State.recordOf?_mem h.nodup hr
    obtain ⟨-, u', hu', hof⟩ := h.recorded _ hm
    obtain rfl : u = u' := Option.some.inj (hu.symm.trans hu')
    obtain ⟨v, hv⟩ := h.kept _ hm hc
    rw [show r.stepId = ref.stepId from hof.stepId.trans hid, hnone] at hv
    simp at hv
  · exact ⟨ref, field, rfl⟩

/-- Reasons to skip the step with the id that come from what happened in the run before. -/
inductive SkipReason.Arises (w : Workflow) (id : String) : SkipReason → Prop where
  | halted : Arises w id .halted
  | blockedBy {d : String} : d ∈ w.dependenciesOf id → Arises w id (.blockedBy d)
  | noField (ref : Reference) (field : String) : Arises w id (.unresolved (.noField ref field))

private theorem Stage.arises (hw : w.Sound registry) (h : Stage e w now remaining s log)
    {step : Step}
    (hstep : step ∈ w.steps) (hready : isReady w s step = true) {i : Nat} {reason : SkipReason}
    (hp : prepare w s i step = .error reason) : reason.Arises w step.id := by
  unfold prepare at hp
  split at hp
  · obtain rfl := Except.error.inj hp
    exact .halted
  · cases hb : blocker? w s step with
    | some d =>
      rw [hb] at hp
      obtain rfl := Except.error.inj hp
      exact .blockedBy (blocker?_eq_some hb).1
    | none =>
      cases hr : Outputs.resolveMembers s.outputs step.parameters with
      | ok parameters => simp [hb, hr] at hp
      | error err =>
        simp only [hb, hr, Except.error.injEq] at hp
        subst hp
        obtain ⟨ref, field, rfl⟩ := h.noField_of_unresolved hw hstep hready hb hr
        exact .noField ref field

/-- Nothing that validation looks at holds up a run that stands here. -/
structure Unhindered (e : Engine) (w : Workflow) (remaining : List (Nat × Step)) (s : State) :
    Prop where
  ready : remaining ≠ [] → ready w s remaining ≠ []
  driver : ∀ p ∈ Run.ready w s remaining, ∀ c, prepare w s p.1 p.2 = .ok c →
    ∃ info, e.registry.find c.driver = .ok info
  output : ∀ p ∈ Run.ready w s remaining, ∀ ref,
    prepare w s p.1 p.2 ≠ .error (.unresolved (.noOutput ref))

theorem find_of_has {r : Registry} {name : String} (h : r.has name = true) :
    ∃ info, r.find name = .ok info := by
  obtain ⟨info, hinfo⟩ := Option.isSome_iff_exists.mp h
  exact ⟨info, by rw [Registry.find, hinfo]⟩

private theorem Stage.unhindered (hw : w.Sound registry) (hwf : WellFounded w.Precedes)
    (hreg : e.registry = registry) (h : Stage e w now remaining s log) :
    Unhindered e w remaining s := by
  have hmem {p : Nat × Step} (hp : p ∈ Run.ready w s remaining) :
      p.2 ∈ w.steps ∧ isReady w s p.2 = true := by
    obtain ⟨hleft, hready⟩ := List.mem_filter.mp hp
    exact ⟨List.mem_of_getElem? (h.tally.steps p hleft), hready⟩
  constructor
  case ready => exact h.ready_ne_nil hw hwf
  case driver =>
    intro p hp c hc
    obtain ⟨hstep, hready⟩ := hmem hp
    obtain ⟨-, hdriver, -⟩ := prepare_ok hready hc
    rw [hreg, hdriver]
    exact find_of_has (hw.supported p.2 hstep).1
  case output =>
    intro p hp ref herr
    obtain ⟨hstep, hready⟩ := hmem hp
    cases h.arises hw hstep hready herr

/-! ## Runs -/

theorem Stage.exists_origin (h : Stage e w now remaining s log) : ∀ p ∈ s.recorded,
    ∃ left past log' step, Stage e w now left past log' ∧ w.steps[p.1]? = some step ∧
      isReady w past step = true ∧ Origin e w now log past p.1 step p.2 := by
  induction h with
  | start => simp
  | @batch remaining s log log' vs hs hr hb ih =>
    intro p hm
    rcases Origin.of_batch hb hm with hold | ⟨step, hbatch, horigin⟩
    · obtain ⟨left, past, earlier, step, hstage, hstep, hready, horigin⟩ := ih p hold
      exact ⟨left, past, earlier, step, hstage, hstep, hready,
        horigin.mono (List.subset_append_left _ _)⟩
    · exact ⟨remaining, s, log, step, hs, hs.tally.of_mem_nextBatch hbatch,
        mem_nextBatch_ready hbatch, horigin.mono (List.subset_append_right _ _)⟩

end Run

/-- Every step had its driver called, or was skipped for what happened in the run before. -/
structure RunResult.Reasoned (w : Workflow) (r : RunResult) : Prop where
  skipped : ∀ rec ∈ r.steps, rec.status = .skipped →
    ∃ reason : Run.SkipReason, reason.Arises w rec.stepId ∧ rec.error = some reason.message
  called : ∀ rec ∈ r.steps, rec.status ≠ .skipped → 0 < rec.attempts

namespace Run

variable {registry : Registry} {w : Workflow} {e : Engine} {now : Time.Instant} {s : State}
  {log : List Event}

private theorem Origin.reasoned (hw : w.Sound registry) (hreg : e.registry = registry)
    {past : State}
    {left : List (Nat × Step)} {log' : List Event} (hs : Stage e w now left past log') {i : Nat}
    {step : Step} (hi : w.steps[i]? = some step) (hready : isReady w past step = true)
    {rec : StepRecord} (h : Origin e w now log past i step rec) :
    (rec.status = .skipped →
      ∃ reason : SkipReason, reason.Arises w rec.stepId ∧ rec.error = some reason.message) ∧
    (rec.status ≠ .skipped → 0 < rec.attempts) := by
  have hstep : step ∈ w.steps := List.mem_of_getElem? hi
  cases h with
  | @skipped reason hp =>
    exact ⟨fun _ => ⟨reason, hs.arises hw hstep hready hp, rfl⟩, fun hnot => absurd rfl hnot⟩
  | @attempted c answers hp =>
    obtain ⟨-, hdriver, -⟩ := prepare_ok hready hp
    have hhas : e.registry.has c.driver = true := by
      rw [hreg, hdriver]
      exact (hw.supported step hstep).1
    refine ⟨fun hskip => ?_, fun _ => verdictOf_attempts_pos hhas answers⟩
    cases hv : (verdictOf e c answers).result <;> simp [attemptedRecord, hv] at hskip

private theorem Stage.reasoned (hw : w.Sound registry) (hreg : e.registry = registry)
    {left : List (Nat × Step)} (h : Stage e w now left s log) (id : Id)
    (started finished : Time.Instant) : (result w id started finished s).Reasoned w := by
  have hall (rec : StepRecord) (hrec : rec ∈ (result w id started finished s).steps) :
      (rec.status = .skipped →
        ∃ reason : SkipReason, reason.Arises w rec.stepId ∧ rec.error = some reason.message) ∧
      (rec.status ≠ .skipped → 0 < rec.attempts) := by
    obtain ⟨p, hp, rfl⟩ := List.mem_map.mp (List.mem_reverse.mp hrec)
    obtain ⟨left, past, log', step, hstage, hi, hready, horigin⟩ := h.exists_origin p hp
    exact horigin.reasoned hw hreg hstage hi hready
  exact ⟨fun rec hrec => (hall rec hrec).1, fun rec hrec => (hall rec hrec).2⟩

end Run

/-- A workflow that is compiled without complaints has steps with different ids, and what they wait
for are steps again, without a cycle. Run by an engine with the same drivers, it is held up by
nothing that validation looks at: at no stage do steps remain of which none is ready, lacks a driver
or lacks the output of a step that a ready step refers to. The run ends when no step remains, and
each was skipped only for what happened before. -/
theorem Engine.execute_unhindered {c : Compiler} {wid : Id} {created : Time.Instant} {b : Blueprint}
    {params : Params} (hvalid : (c.compile wid created b params).validation.isValid = true) :
    let w := c.compile wid created b params
    let ids := w.steps.map (·.id)
    (w.steps ≠ [] ∧ ids.Nodup ∧ (∀ p ∈ w.dependencies, p.1 ∈ ids ∧ ∀ d ∈ p.2, d ∈ ids) ∧
      w.Acyclic) ∧
    ∀ e : Engine, e.registry = c.registry →
      (∀ now remaining s log, Run.Stage e w now remaining s log → Run.Unhindered e w remaining s) ∧
      ∀ id log x, Run.Ends e (e.execute w id) log x → ∃ started finished s,
        x = .ok (Run.result w id started finished s) ∧ Run.Stage e w started [] s log ∧
          (Run.result w id started finished s).Reasoned w := by
  intro w ids
  have hw : w.Sound c.registry := Compiler.compile_sound hvalid
  have hwf : WellFounded w.Precedes := hw.wellFounded rfl (Compiler.compile_findCycle hvalid)
  refine ⟨⟨hw.nonempty, hw.ids, fun p hp => hw.declared_of_mem rfl hp,
    Workflow.acyclic_of_wellFounded hwf⟩, fun e hreg => ⟨?_, ?_⟩⟩
  · intro now remaining s log h
    exact h.unhindered hw hwf hreg
  · intro id log x h
    obtain ⟨started, finished, left, s, rfl, hs, hr⟩ := Run.Stage.of_ends hvalid h
    have hleft : left = [] := by
      by_contra hne
      exact (hs.unhindered hw hwf hreg).ready hne hr
    subst hleft
    exact ⟨started, finished, s, rfl, hs, hs.reasoned hw hreg id started finished⟩

theorem Engine.execute_unhindered_fetchThenSend :
    let w := Run.mailer.compile .zero ⟨0, 0⟩ Run.fetchThenSend []
    let e : Engine := ⟨Run.mailer.registry, { concurrent := true, maxRetries := 1 }⟩
    w.validation.isValid = true ∧ e.registry = Run.mailer.registry ∧ w.Acyclic ∧
      ∃ log r, Run.Ends e (e.execute w .zero) log (.ok r) ∧ r.Reasoned w := by
  intro w e
  have hvalid : w.validation.isValid = true := by decide +kernel
  obtain ⟨⟨-, -, -, hacyclic⟩, hrun⟩ := Engine.execute_unhindered hvalid
  obtain ⟨log, x, hc, -⟩ := Run.Point.reaches_end e (fun _ _ => none) (.asking (e.execute w .zero))
  obtain ⟨started, finished, s, rfl, -, hr⟩ := (hrun e rfl).2 .zero log x hc
  exact ⟨hvalid, rfl, hacyclic, log, _, hc, hr⟩

end Automation
