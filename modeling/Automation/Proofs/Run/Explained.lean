import Automation.Proofs.Run.History

/-!
# Runs explained by their outputs

Under continue-on-failure the outputs that a run ends with explain all that happened in it: which
steps were skipped and why, and with which parameters every driver was called. That calls were made
with fewer outputs, and in waves, cannot be seen.
-/

namespace Automation

open Json

/-- How the step with the id ended. -/
def RunResult.statusOf (r : RunResult) (id : String) : Option StepStatus :=
  (r.step? id).map (·.status)

/-- The outputs of a run are those of its completed steps. A step was skipped just if something it
waits for did not complete or its references have no value in the outputs, and then an output lacks
a field. Every other step had its driver called, always with the parameters that the outputs give
and after everything it waits for was recorded, with outputs that hold all this. -/
structure RunResult.Explained (w : Workflow) (log : List Run.Event) (r : RunResult) : Prop where
  context : ∀ id v, Entries.get? r.context id = some v ↔
    ∃ rec, r.step? id = some rec ∧ rec.status = .completed ∧ rec.output = some v
  sorted : Entries.Sorted r.context
  skipped_iff : ∀ s ∈ w.steps, r.statusOf s.id = some .skipped ↔
    (∃ d ∈ w.dependenciesOf s.id, r.statusOf d ≠ some .completed) ∨
      ∃ err, Outputs.resolveMembers r.context s.parameters = .error err
  lacking : ∀ s ∈ w.steps, (∀ d ∈ w.dependenciesOf s.id, r.statusOf d = some .completed) →
    ∀ err, Outputs.resolveMembers r.context s.parameters = .error err →
      ∃ ref ∈ Reference.inMembers s.parameters, ∃ output field,
        Entries.get? r.context ref.stepId = some output ∧ ref.field = some field ∧
          output.member? field = none ∧ err = .noField ref field
  called : ∀ i s, w.steps[i]? = some s → r.statusOf s.id ≠ some .skipped →
    ∃ c k a, .called c k a ∈ log ∧ c.position = i
  calls : ∀ pre c k a post, log = pre ++ .called c k a :: post →
    ∃ s, w.steps[c.position]? = some s ∧ r.statusOf s.id ≠ some .skipped ∧
      c.driver = s.driver ∧ c.operation = s.operation ∧
      Outputs.resolveMembers r.context s.parameters = .ok c.parameters ∧
      ∀ d ∈ w.dependenciesOf s.id, ∃ c' v t output, .recorded c' v ∈ pre ∧
        w.steps[c'.position]? = some t ∧ t.id = d ∧ v.result = .ok output ∧
        Entries.get? c.context d = some output ∧ Entries.get? r.context d = some output

namespace Run

variable {registry : Registry} {w : Workflow} {e : Engine} {now : Time.Instant} {s : State}
  {left : List (Nat × Step)} {log : List Event}

/-! ## The result -/

theorem step?_result (hs : Consistent w s) (hn : (w.steps.map (·.id)).Nodup) (id : Id)
    (started finished : Time.Instant) (d : String) :
    (result w id started finished s).step? d = s.recordOf? w.steps d := by
  have hfound (r : StepRecord) (h : (result w id started finished s).step? d = some r) :
      s.recordOf? w.steps d = some r := by
    have hid : r.stepId = d := by simpa using List.find?_some h
    have hmem : r ∈ (s.recorded.map (·.2)).reverse := List.mem_of_find?_eq_some h
    obtain ⟨⟨j, r⟩, hm, rfl⟩ := List.mem_map.mp (List.mem_reverse.mp hmem)
    obtain ⟨-, t, ht, hof⟩ := hs.recorded _ hm
    rw [← hid, hof.stepId]
    exact hs.recordOf?_eq hn ht hm
  cases hr : s.recordOf? w.steps d with
  | none =>
    by_contra hne
    obtain ⟨r, h⟩ := Option.ne_none_iff_exists'.mp hne
    rw [hfound r h] at hr
    simp at hr
  | some r =>
    obtain ⟨j, t, ht, hid, hm⟩ := hs.recordOf?_mem hr
    obtain ⟨-, t', ht', hof⟩ := hs.recorded _ hm
    obtain rfl : t = t' := Option.some.inj (ht.symm.trans ht')
    have hsome : ((result w id started finished s).step? d).isSome := by
      rw [RunResult.step?, List.find?_isSome]
      have hrid : r.stepId = d := hof.stepId.trans hid
      exact ⟨r, List.mem_reverse.mpr (List.mem_map.mpr ⟨_, hm, rfl⟩), by simp [hrid]⟩
    obtain ⟨q, hq⟩ := Option.isSome_iff_exists.mp hsome
    rw [hq, ← hr, hfound q hq]

/-! ## Everything is recorded in the end -/

private theorem Stage.finish_record (h : Stage e w now left s log) {i : Nat} {step : Step}
    (hstep : w.steps[i]? = some step) : ∃ r, (i, r) ∈ (finish now left s).recorded := by
  rcases h.recorded_or_remains hstep with ⟨r, hr⟩ | hleft
  · exact ⟨r, mem_finish.mpr (.inl hr)⟩
  · exact ⟨_, mem_finish.mpr (.inr ⟨step, hleft, rfl⟩)⟩

private theorem Stage.finish_isReady (hw : w.Sound registry)
    (hp : w.errorPolicy = .continueOnFailure)
    (h : Stage e w now left s log) {step : Step} (hstep : step ∈ w.steps) :
    isReady w (finish now left s) step = true := by
  rw [isReady_iff]
  intro d hd
  rw [hw.dependencies step hstep] at hd
  obtain ⟨t, ht, rfl⟩ := hw.declared step hstep d hd
  obtain ⟨j, hj⟩ := List.mem_iff_getElem?.mp ht
  obtain ⟨r, hr⟩ := h.finish_record hj
  exact ⟨r, (h.finish_consistent hw hp).recordOf?_eq hw.ids hj hr⟩

/-- A step that can never start waits for one that has not completed in the end. -/
theorem Stage.left_waits (hw : w.Sound registry) (hp : w.errorPolicy = .continueOnFailure)
    (h : Stage e w now left s log) (hr : ready w s left = []) {i : Nat} {step : Step}
    (hleft : (i, step) ∈ left) :
    ∃ d ∈ w.dependenciesOf step.id, ∃ q, (finish now left s).recordOf? w.steps d = some q ∧
      q.status ≠ .completed := by
  obtain ⟨d, hd, hnone⟩ := not_isReady_of_left hr hleft
  have hstep : step ∈ w.steps := List.mem_of_getElem? (h.tally.steps _ hleft)
  obtain ⟨q, hq⟩ := isReady_iff.mp (h.finish_isReady hw hp hstep) d hd
  obtain ⟨j, t, ht, rfl, hm⟩ := (h.finish_consistent hw hp).recordOf?_mem hq
  refine ⟨t.id, hd, q, hq, ?_⟩
  rcases mem_finish.mp hm with hold | ⟨t', -, hskip⟩
  · rw [(h.consistent hw hp).recordOf?_eq hw.ids ht hold] at hnone
    simp at hnone
  · simp only at hskip
    simp [hskip, skippedRecord]

/-! ## Skipped steps -/

/-- A step is skipped just if it could not be dispatched with everything recorded. -/
theorem Stage.skipped_iff_prepare (hw : w.Sound registry) (hp : w.errorPolicy = .continueOnFailure)
    (h : Stage e w now left s log) (hr : ready w s left = []) {i : Nat} {step : Step}
    (hstep : w.steps[i]? = some step) {r : StepRecord}
    (hm : (i, r) ∈ (finish now left s).recorded) :
    r.status = .skipped ↔ ∃ reason, prepare w (finish now left s) i step = .error reason := by
  have hu := h.finish_consistent hw hp
  have hmem : step ∈ w.steps := List.mem_of_getElem? hstep
  rcases mem_finish.mp hm with hold | ⟨step', hleft, hskip⟩
  · obtain ⟨past, step', hready, horigin⟩ := h.origin hw hp _ hold
    obtain rfl : step = step' := Option.some.inj (hstep.symm.trans hready.place)
    have hprep := prepare_within hw hready.consistent hu
      (hready.within.trans (within_finish left)) (i := i) hmem hready.ready
    rw [hprep]
    simp only at horigin
    cases horigin with
    | skipped hpast => simp [hpast, skippedRecord, Except.map]
    | @attempted c answers hpast =>
      cases hv : (verdictOf e c answers).result <;>
        simp [hpast, attemptedRecord, hv, Except.map]
  · obtain rfl : step = step' := Option.some.inj (hstep.symm.trans (h.tally.steps _ hleft))
    simp only at hskip
    have hwaits := h.left_waits hw hp hr hleft
    rw [exists_prepare_error_iff hu.halted (h.finish_isReady hw hp hmem)]
    simp [hskip, skippedRecord, hwaits]

/-! ## The whole run -/

section

variable (hw : w.Sound registry) (hp : w.errorPolicy = .continueOnFailure)
  (h : Stage e w now left s log)
include hw hp h

private theorem Stage.statusOf_eq (id : Id) (started finished : Time.Instant) {i : Nat}
    {step : Step}
    (hstep : w.steps[i]? = some step) {r : StepRecord}
    (hm : (i, r) ∈ (finish now left s).recorded) :
    (result w id started finished (finish now left s)).statusOf step.id = some r.status := by
  have hu := h.finish_consistent hw hp
  rw [RunResult.statusOf, step?_result hu hw.ids, hu.recordOf?_eq hw.ids hstep hm, Option.map_some]

private theorem Stage.exists_waits_iff (id : Id) (started finished : Time.Instant) {step : Step}
    (hstep : step ∈ w.steps) :
    (∃ d ∈ w.dependenciesOf step.id,
      (result w id started finished (finish now left s)).statusOf d ≠ some .completed) ↔
    ∃ d ∈ w.dependenciesOf step.id, ∃ q, (finish now left s).recordOf? w.steps d = some q ∧
      q.status ≠ .completed := by
  have hready := isReady_iff.mp (h.finish_isReady hw hp hstep)
  refine exists_congr fun d => and_congr_right fun hd => ?_
  obtain ⟨q, hq⟩ := hready d hd
  rw [RunResult.statusOf, step?_result (h.finish_consistent hw hp) hw.ids, hq]
  simp

private theorem Stage.skipped_iff (hr : ready w s left = []) (id : Id)
    (started finished : Time.Instant) {step : Step} (hstep : step ∈ w.steps) :
    (result w id started finished (finish now left s)).statusOf step.id = some .skipped ↔
      (∃ d ∈ w.dependenciesOf step.id,
        (result w id started finished (finish now left s)).statusOf d ≠ some .completed) ∨
      ∃ err, Outputs.resolveMembers (finish now left s).outputs step.parameters = .error err := by
  obtain ⟨i, hi⟩ := List.mem_iff_getElem?.mp hstep
  obtain ⟨r, hm⟩ := h.finish_record hi
  rw [h.statusOf_eq hw hp id started finished hi hm, Option.some.injEq,
    h.skipped_iff_prepare hw hp hr hi hm, h.exists_waits_iff hw hp id started finished hstep]
  exact exists_prepare_error_iff (h.finish_consistent hw hp).halted (h.finish_isReady hw hp hstep)

private theorem Stage.lacking {step : Step} (hstep : step ∈ w.steps)
    (hall : ∀ d ∈ w.dependenciesOf step.id, ∃ q, (finish now left s).recordOf? w.steps d = some q ∧
      q.status = .completed) {err : Outputs.Error}
    (herr : Outputs.resolveMembers (finish now left s).outputs step.parameters = .error err) :
    ∃ ref ∈ Reference.inMembers step.parameters, ∃ output field,
      Entries.get? (finish now left s).outputs ref.stepId = some output ∧
        ref.field = some field ∧ output.member? field = none ∧ err = .noField ref field := by
  obtain ⟨ref, href, hlookup⟩ := Outputs.resolveMembers_error _ herr
  refine ⟨ref, href, ?_⟩
  rcases Outputs.lookup_error hlookup with ⟨hnone, -⟩ | hfield
  · have hd := Step.mem_dependencies_of_reference href
    rw [← hw.dependencies step hstep] at hd
    obtain ⟨q, hq, hc⟩ := hall _ hd
    obtain ⟨v, hv, -⟩ := (h.finish_consistent hw hp).output_of_completed hq hc
    rw [hnone] at hv
    simp at hv
  · exact hfield

private theorem Stage.called (hreg : e.registry = registry) {i : Nat} {step : Step}
    (hstep : w.steps[i]? = some step) {r : StepRecord} (hm : (i, r) ∈ (finish now left s).recorded)
    (hnot : r.status ≠ .skipped) : ∃ c k a, .called c k a ∈ log ∧ c.position = i := by
  rcases mem_finish.mp hm with hold | ⟨step', -, hskip⟩
  · obtain ⟨past, step', hready, horigin⟩ := h.origin hw hp _ hold
    obtain rfl : step = step' := Option.some.inj (hstep.symm.trans hready.place)
    simp only at horigin
    cases horigin with
    | skipped => simp [skippedRecord] at hnot
    | @attempted c answers hprep hcalls =>
      obtain ⟨hpos, hdriver, -⟩ := prepare_ok hready.ready hprep
      have hhas : e.registry.has c.driver = true := by
        rw [hreg, hdriver]
        exact (hw.supported step (List.mem_of_getElem? hstep)).1
      exact ⟨c, 0, answers 0, hcalls 0 (verdictOf_attempts_pos hhas answers), hpos⟩
  · simp only at hskip
    simp [hskip, skippedRecord] at hnot

private theorem Stage.calls (hr : ready w s left = []) {pre post : List Event} {c : StepCall}
    {k : Nat} {a : Option Outcome} (hlog : log = pre ++ .called c k a :: post) :
    ∃ step, w.steps[c.position]? = some step ∧ c.driver = step.driver ∧
      c.operation = step.operation ∧
      (∀ r, (c.position, r) ∈ (finish now left s).recorded → r.status ≠ .skipped) ∧
      Outputs.resolveMembers (finish now left s).outputs step.parameters = .ok c.parameters ∧
      ∀ d ∈ w.dependenciesOf step.id, ∃ c' v t output, .recorded c' v ∈ pre ∧
        w.steps[c'.position]? = some t ∧ t.id = d ∧ v.result = .ok output ∧
        Entries.get? c.context d = some output ∧
        Entries.get? (finish now left s).outputs d = some output := by
  have hu := h.finish_consistent hw hp
  obtain ⟨past, step, hready, hprep, hnoted⟩ := h.call_origin hw hp hlog
  have hmem : step ∈ w.steps := List.mem_of_getElem? hready.place
  have hwithin : past.Within (finish now left s) := hready.within.trans (within_finish left)
  obtain ⟨-, hdriver, hoperation, hcontext, hres, hall⟩ := prepare_ok hready.ready hprep
  refine ⟨step, hready.place, hdriver, hoperation, fun r hm => ?_, ?_, fun d hd => ?_⟩
  · have hprep' :=
      prepare_within hw hready.consistent hu hwithin (i := c.position) hmem hready.ready
    rw [Ne, h.skipped_iff_prepare hw hp hr hready.place hm, hprep', hprep]
    simp [Except.map]
  · have halike := alike_of_completed hw hready.consistent hu hwithin hmem hall
    rw [Outputs.resolveMembers_congr _ halike, hres]
  · obtain ⟨q, hq, hc⟩ := hall d hd
    obtain ⟨output, hget, hout⟩ := hready.consistent.output_of_completed hq hc
    obtain ⟨j, t, ht, hid, hm⟩ := hready.consistent.recordOf?_mem hq
    obtain ⟨c', v, hnote, hpos, hv⟩ := hnoted _ hm output hout
    rw [hcontext]
    exact ⟨c', v, t, output, hnote, hpos ▸ ht, hid, hv, hget,
      hready.consistent.outputs_within hu hwithin hget⟩

private theorem Stage.explained (hreg : e.registry = registry) (hr : ready w s left = []) (id : Id)
    (started finished : Time.Instant) :
    (result w id started finished (finish now left s)).Explained w log := by
  have hu := h.finish_consistent hw hp
  have hstep? := step?_result hu hw.ids id started finished
  constructor
  case context =>
    intro d v
    rw [hstep?]
    exact hu.get?_outputs_iff hw.ids
  case sorted => exact hu.sorted
  case skipped_iff => exact fun step hstep => h.skipped_iff hw hp hr id started finished hstep
  case lacking =>
    intro step hstep hall err herr
    refine h.lacking hw hp hstep (fun d hd => ?_) herr
    simpa [RunResult.statusOf, hstep?] using hall d hd
  case called =>
    intro i step hi hnot
    obtain ⟨r, hm⟩ := h.finish_record hi
    rw [h.statusOf_eq hw hp id started finished hi hm, Ne, Option.some.injEq] at hnot
    exact h.called hw hp hreg hi hm hnot
  case calls =>
    intro pre c k a post hlog
    obtain ⟨step, hi, hdriver, hoperation, hnot, hrest⟩ := h.calls hw hp hr hlog
    obtain ⟨r, hm⟩ := h.finish_record hi
    refine ⟨step, hi, ?_, hdriver, hoperation, hrest⟩
    rw [h.statusOf_eq hw hp id started finished hi hm, Ne, Option.some.injEq]
    exact hnot r hm

end

end Run

/-- A compiled workflow without complaints, run under continue-on-failure by an engine with the same
drivers, one step at a time or in waves, whatever the drivers answer: the run is explained by the
outputs that it ends with. -/
theorem Engine.execute_explained {c : Compiler} {wid : Id} {created : Time.Instant} {b : Blueprint}
    {params : Params} (hvalid : (c.compile wid created b params).validation.isValid = true)
    (hpolicy : c.errorPolicy = .continueOnFailure) {e : Engine} (hreg : e.registry = c.registry)
    {id : Id} {log : List Run.Event} {x : Except Workflow.Invalid RunResult}
    (h : Run.Ends e (e.execute (c.compile wid created b params) id) log x) :
    ∃ r, x = .ok r ∧ r.Explained (c.compile wid created b params) log := by
  obtain ⟨started, finished, left, s, rfl, hs, hr⟩ := Run.Stage.of_ends hvalid h
  exact ⟨_, rfl, hs.explained (Compiler.compile_sound hvalid) hpolicy hreg hr id started finished⟩

/-- One driver that fetches and sends mail. -/
def Run.mailer : Compiler where
  registry := ⟨[("mail", ⟨"mail", "", [⟨"fetch", "", [], []⟩, ⟨"send", "", ["to"], []⟩]⟩)]⟩

/-- Mail is fetched, and its sender gets an answer. -/
def Run.fetchThenSend : Blueprint := .plan
  { name := "fetch then send"
    steps := [⟨"a", "mail", "fetch", [], []⟩,
      ⟨"b", "mail", "send", [("to", .string "step:a.output.sender")], []⟩] }

theorem Engine.execute_explained_fetchThenSend :
    let w := Run.mailer.compile .zero ⟨0, 0⟩ Run.fetchThenSend []
    let e : Engine := ⟨Run.mailer.registry, { concurrent := true, maxRetries := 1 }⟩
    w.validation.isValid = true ∧ Run.mailer.errorPolicy = .continueOnFailure ∧
      e.registry = Run.mailer.registry ∧
      ∃ log r, Run.Ends e (e.execute w .zero) log (.ok r) ∧ r.Explained w log := by
  intro w e
  have hvalid : w.validation.isValid = true := by decide +kernel
  obtain ⟨log, x, hc, -⟩ := Run.Point.reaches_end e (fun _ _ => none) (.asking (e.execute w .zero))
  obtain ⟨r, rfl, hr⟩ := Engine.execute_explained hvalid rfl rfl hc
  exact ⟨hvalid, rfl, rfl, log, r, hc, hr⟩

end Automation
