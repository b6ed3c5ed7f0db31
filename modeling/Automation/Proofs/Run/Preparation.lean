import Automation.Proofs.Run.Consistency
import Automation.Proofs.Workflow.Resolution
import Mathlib.Data.List.Find

/-!
# What becomes of a step that is ready

Once everything that a step waits for is recorded, it is settled whether the step is dispatched,
with which parameters, or why it is skipped: neither later records nor later outputs change it. This
rests on outputs that are written once, and on the dependency map covering all references.
-/

namespace Automation.Run

variable {registry : Registry} {w : Workflow} {s t : State}

theorem isReady_iff {step : Step} : isReady w s step = true ↔
    ∀ d ∈ w.dependenciesOf step.id, ∃ r, s.recordOf? w.steps d = some r := by
  simp [isReady, List.all_eq_true, Option.isSome_iff_exists]

theorem isReady_within (hs : Consistent w s) (ht : Consistent w t) (hst : s.Within t)
    (hn : (w.steps.map (·.id)).Nodup) {step : Step} (h : isReady w s step = true) :
    isReady w t step = true := by
  rw [isReady_iff] at h ⊢
  intro d hd
  obtain ⟨r, hr⟩ := h d hd
  obtain ⟨q, hq, -⟩ := hs.recordOf?_within ht hst hn hr
  exact ⟨q, hq⟩

private theorem blocker?_within (hs : Consistent w s) (ht : Consistent w t) (hst : s.Within t)
    (hn : (w.steps.map (·.id)).Nodup) {step : Step} (h : isReady w s step = true) :
    blocker? w t step = blocker? w s step := by
  apply List.find?_congr
  intro d hd
  obtain ⟨r, hr⟩ := isReady_iff.mp h d hd
  obtain ⟨q, hq, he⟩ := hs.recordOf?_within ht hst hn hr
  simp only [hr, hq, StepRecord.status_of_timeless he]

theorem blocker?_eq_none {step : Step} (h : isReady w s step = true) :
    blocker? w s step = none ↔ ∀ d ∈ w.dependenciesOf step.id, ∃ r,
      s.recordOf? w.steps d = some r ∧ r.status = .completed := by
  rw [blocker?, List.find?_eq_none]
  refine forall₂_congr fun d hd => ?_
  obtain ⟨r, hr⟩ := isReady_iff.mp h d hd
  simp [hr]

theorem blocker?_eq_some {step : Step} {d : String} (h : blocker? w s step = some d) :
    d ∈ w.dependenciesOf step.id ∧ ∃ r, s.recordOf? w.steps d = some r ∧ r.status ≠ .completed := by
  refine ⟨List.mem_of_find?_eq_some h, ?_⟩
  have hd := List.find?_some h
  cases hr : s.recordOf? w.steps d with
  | none => simp [hr] at hd
  | some r => exact ⟨r, rfl, by simpa [hr] using hd⟩

/-- The outputs that the parameters of a step refer to are there when all that it waits for has
completed, and stay as they are. -/
theorem alike_of_completed (hw : w.Sound registry) (hs : Consistent w s) (ht : Consistent w t)
    (hst : s.Within t) {step : Step} (hstep : step ∈ w.steps)
    (h : ∀ d ∈ w.dependenciesOf step.id, ∃ r, s.recordOf? w.steps d = some r ∧
      r.status = .completed) :
    Outputs.Alike t.outputs s.outputs (Reference.inMembers step.parameters) := by
  intro ref href
  have hd := Step.mem_dependencies_of_reference href
  rw [← hw.dependencies step hstep] at hd
  obtain ⟨r, hr, hc⟩ := h _ hd
  obtain ⟨v, hv, -⟩ := hs.output_of_completed hr hc
  rw [hv, hs.outputs_within ht hst hv]

/-- What becomes of a step that is ready does not depend on what else is recorded, its view of the
outputs apart. -/
theorem prepare_within (hw : w.Sound registry) (hs : Consistent w s) (ht : Consistent w t)
    (hst : s.Within t) {i : Nat} {step : Step} (hstep : step ∈ w.steps)
    (h : isReady w s step = true) :
    prepare w t i step = (prepare w s i step).map fun c => { c with context := t.outputs } := by
  unfold prepare
  rw [hs.halted, ht.halted, blocker?_within hs ht hst hw.ids h]
  cases hb : blocker? w s step with
  | some d => rfl
  | none =>
    have halike := alike_of_completed hw hs ht hst hstep ((blocker?_eq_none h).mp hb)
    simp only [Outputs.resolveMembers_congr step.parameters halike]
    cases Outputs.resolveMembers s.outputs step.parameters <;> rfl

theorem prepare_ok {i : Nat} {step : Step} {c : StepCall} (h : isReady w s step = true)
    (hp : prepare w s i step = .ok c) :
    c.position = i ∧ c.driver = step.driver ∧ c.operation = step.operation ∧
      c.context = s.outputs ∧
      Outputs.resolveMembers s.outputs step.parameters = .ok c.parameters ∧
      ∀ d ∈ w.dependenciesOf step.id, ∃ r, s.recordOf? w.steps d = some r ∧
        r.status = .completed := by
  unfold prepare at hp
  split at hp
  · simp at hp
  · cases hb : blocker? w s step with
    | some d => simp [hb] at hp
    | none =>
      cases hr : Outputs.resolveMembers s.outputs step.parameters with
      | error e => simp [hb, hr] at hp
      | ok parameters =>
        simp only [hb, hr, Except.ok.injEq] at hp
        subst hp
        exact ⟨rfl, rfl, rfl, rfl, rfl, (blocker?_eq_none h).mp hb⟩

private theorem prepare_error {i : Nat} {step : Step} {reason : SkipReason} (hh : s.halted = false)
    (hp : prepare w s i step = .error reason) :
    (∃ d ∈ w.dependenciesOf step.id, ∃ r, s.recordOf? w.steps d = some r ∧
      r.status ≠ .completed) ∨
      ∃ e, Outputs.resolveMembers s.outputs step.parameters = .error e := by
  rw [prepare, hh] at hp
  cases hb : blocker? w s step with
  | some d =>
    obtain ⟨hd, hr⟩ := blocker?_eq_some hb
    exact .inl ⟨d, hd, hr⟩
  | none =>
    cases hr : Outputs.resolveMembers s.outputs step.parameters with
    | error e => exact .inr ⟨e, rfl⟩
    | ok parameters => simp [hb, hr] at hp

theorem exists_prepare_error_iff {i : Nat} {step : Step} (hh : s.halted = false)
    (h : isReady w s step = true) :
    (∃ reason, prepare w s i step = .error reason) ↔
      (∃ d ∈ w.dependenciesOf step.id, ∃ r, s.recordOf? w.steps d = some r ∧
        r.status ≠ .completed) ∨
        ∃ e, Outputs.resolveMembers s.outputs step.parameters = .error e := by
  constructor
  · rintro ⟨reason, hp⟩
    exact prepare_error hh hp
  · intro hcause
    cases hp : prepare w s i step with
    | error reason => exact ⟨reason, rfl⟩
    | ok c =>
      obtain ⟨-, -, -, -, hres, hall⟩ := prepare_ok h hp
      rcases hcause with ⟨d, hd, r, hr, hnot⟩ | ⟨e, he⟩
      · obtain ⟨q, hq, hc⟩ := hall d hd
        rw [hr, Option.some.injEq] at hq
        exact absurd (hq ▸ hc) hnot
      · rw [hres] at he
        simp at he

end Automation.Run
