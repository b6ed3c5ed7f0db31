import Automation.Proofs.Run.Explained

/-!
# Waves and single steps agree

Under continue-on-failure it makes no difference whether steps are started one at a time or in
waves, as long as what a driver answers to a call depends on the operation, the resolved parameters
and the number of earlier attempts alone. The records can come in another order and at other times.
-/

namespace Automation

open Json

/-- Up to the order and the times of the records two runs give the same. -/
structure RunResult.Agrees (r r' : RunResult) : Prop where
  steps : (r.steps.map StepRecord.timeless).Perm (r'.steps.map StepRecord.timeless)
  step? : ∀ id, (r.step? id).map StepRecord.timeless = (r'.step? id).map StepRecord.timeless
  context : r.context = r'.context
  total : r.total = r'.total
  succeeded : r.succeeded = r'.succeeded
  failed : r.failed = r'.failed
  skipped : r.skipped = r'.skipped
  status : r.status = r'.status

/-- The engines differ at most in whether steps are started together. -/
structure Engine.Kin (e₁ e₂ : Engine) : Prop where
  registry : e₁.registry = e₂.registry
  settings : { e₁.settings with concurrent := e₂.settings.concurrent } = e₂.settings

private theorem Engine.Kin.symm {e₁ e₂ : Engine} (h : e₁.Kin e₂) : e₂.Kin e₁ where
  registry := h.registry.symm
  settings := by
    rw [← h.settings]

namespace Run

/-- The answer to a call depends on the operation, the parameters and the number of earlier attempts
alone. -/
def plainly (answer : String → String → Members → Nat → Option Outcome) (c : StepCall) (k : Nat) :
    Option Outcome :=
  answer c.driver c.operation c.parameters k

variable {registry : Registry} {w : Workflow} {e₁ e₂ : Engine} {now₁ now₂ : Time.Instant}
  {s₁ s₂ : State} {left₁ left₂ : List (Nat × Step)} {log₁ log₂ : List Event}
  {answer : String → String → Members → Nat → Option Outcome}

/-! ## Verdicts -/

private theorem run_repeatCalls_congr (settings : RunSettings) (concurrent : Bool)
    (c₁ c₂ : StepCall) (answers : Nat → Option Outcome) (left made k : Nat) (error : String) :
    Process.run (answering answers) (Attempt.repeatCalls settings c₁ left made error) k =
      Process.run (answering answers)
        (Attempt.repeatCalls { settings with concurrent } c₂ left made error) k := by
  induction left generalizing made k error with
  | zero => rfl
  | succ left ih =>
    have hnext (a : Option Outcome) (k : Nat) :
        Process.run (answering answers) (afterCall settings c₁ left made a) k =
          Process.run (answering answers)
            (afterCall { settings with concurrent } c₂ left made a) k := by
      unfold afterCall
      dsimp only
      split
      · rfl
      · exact ih _ _ _
    rw [repeatCalls_succ, repeatCalls_succ]
    split <;> exact hnext (answers k) (k + 1)

private theorem verdictOf_kin (he : e₁.Kin e₂) {c₁ c₂ : StepCall} (hc : c₁.driver = c₂.driver)
    (answers : Nat → Option Outcome) : verdictOf e₁ c₁ answers = verdictOf e₂ c₂ answers := by
  rw [verdictOf, verdictOf, Attempt.run, Attempt.run, hc, he.registry, ← he.settings]
  cases e₂.registry.find c₂.driver with
  | error err => rfl
  | ok info =>
    dsimp only
    rw [run_repeatCalls_congr e₁.settings e₂.settings.concurrent c₁ c₂]
    rfl

/-! ## Records -/

private theorem Origin.timeless_eq (he : e₁.Kin e₂) (ho₁ : Obeys (plainly answer) log₁)
    (ho₂ : Obeys (plainly answer) log₂) {past₁ past₂ : State} {i : Nat} {step : Step}
    {r₁ r₂ : StepRecord} (h₁ : Origin e₁ w now₁ log₁ past₁ i step r₁)
    (h₂ : Origin e₂ w now₂ log₂ past₂ i step r₂) {context : Members}
    (hprep : (prepare w past₁ i step).map (fun c => { c with context }) =
      (prepare w past₂ i step).map fun c => { c with context }) :
    r₂.timeless = r₁.timeless := by
  cases h₁ with
  | skipped hp₁ =>
    cases h₂ with
    | skipped hp₂ =>
      simp only [hp₁, hp₂, Except.map, Except.error.injEq] at hprep
      rw [hprep]
      rfl
    | attempted _ hp₂ => simp [hp₁, hp₂, Except.map] at hprep
  | @attempted c₁ answers₁ hp₁ hcalls₁ =>
    cases h₂ with
    | skipped hp₂ => simp [hp₁, hp₂, Except.map] at hprep
    | @attempted c₂ answers₂ hp₂ hcalls₂ =>
      simp only [hp₁, hp₂, Except.map, Except.ok.injEq, StepCall.mk.injEq] at hprep
      obtain ⟨-, hdriver, hoperation, hparameters, -⟩ := hprep
      have hsame : plainly answer c₁ = plainly answer c₂ := by
        funext k
        rw [plainly, plainly, hdriver, hoperation, hparameters]
      have hv₁ := verdictOf_congr fun k hk => ho₁ c₁ k _ (hcalls₁ k hk)
      have hv₂ := verdictOf_congr fun k hk => ho₂ c₂ k _ (hcalls₂ k hk)
      rw [hv₁, hv₂, hsame, verdictOf_kin he hdriver]
      rfl

/-! ## Runs -/

section

variable (hw : w.Sound registry) (hp : w.errorPolicy = .continueOnFailure)
include hw hp

/-- What one run has recorded at any stage the other one records too. -/
theorem Stage.within_of_obeys (he : e₁.Kin e₂) (h₁ : Stage e₁ w now₁ left₁ s₁ log₁)
    (ho₁ : Obeys (plainly answer) log₁) (h₂ : Stage e₂ w now₂ left₂ s₂ log₂)
    (ho₂ : Obeys (plainly answer) log₂) (hr₂ : ready w s₂ left₂ = []) : s₁.Within s₂ := by
  induction h₁ with
  | start => simp [State.Within]
  | @batch remaining s log log' vs hs hr hb ih =>
    have hc₂ := h₂.consistent hw hp
    have hc := hs.consistent hw hp
    have hbefore : s.Within s₂ := ih fun c k a ha => ho₁ c k a (List.mem_append_left _ ha)
    intro p hm
    rcases Origin.of_batch hb hm with hold | ⟨step, hbatch, horigin⟩
    · exact hbefore p hold
    · have hready : isReady w s step = true := mem_nextBatch_ready hbatch
      have hi := hs.tally.of_mem_nextBatch hbatch
      have hmem : step ∈ w.steps := List.mem_of_getElem? hi
      -- everything that the step waits for is recorded in the other run, so the step is too
      obtain ⟨r, hrec⟩ : ∃ r, (p.1, r) ∈ s₂.recorded := by
        rcases h₂.recorded_or_remains hi with hrec | hleft
        · exact hrec
        · have hnot := List.filter_eq_nil_iff.mp hr₂ _ hleft
          exact absurd (isReady_within hc hc₂ hbefore hw.ids hready) hnot
      obtain ⟨past, step', hpast, horigin₂⟩ := h₂.origin hw hp _ hrec
      obtain rfl : step = step' := Option.some.inj (hi.symm.trans hpast.place)
      have hprep := prepare_within hw hc hc₂ hbefore (i := p.1) hmem hready
      have hprep₂ := prepare_within hw hpast.consistent hc₂ hpast.within (i := p.1) hmem hpast.ready
      have ho' : Obeys (plainly answer) _ :=
        fun c k a ha => ho₁ c k a (List.mem_append_right _ ha)
      exact ⟨r, hrec, horigin.timeless_eq he ho' ho₂ horigin₂ (hprep.symm.trans hprep₂)⟩

end

private theorem Stage.finish_within (h₁ : Stage e₁ w now₁ left₁ s₁ log₁)
    (h₂ : Stage e₂ w now₂ left₂ s₂ log₂) (h : s₁.Within s₂) (h' : s₂.Within s₁) :
    (finish now₁ left₁ s₁).Within (finish now₂ left₂ s₂) := by
  intro p hm
  rcases mem_finish.mp hm with hold | ⟨step, hleft, hskip⟩
  · obtain ⟨r, hr, he⟩ := h p hold
    exact ⟨r, mem_finish.mpr (.inl hr), he⟩
  · have hi := h₁.tally.steps _ hleft
    rcases h₂.recorded_or_remains hi with ⟨r, hr⟩ | hleft₂
    · obtain ⟨q, hq, -⟩ := h' _ hr
      have hout := List.disjoint_of_nodup_append h₁.tally.nodup
      exact absurd (List.mem_map_of_mem hq) (hout (List.mem_map_of_mem (f := Prod.fst) hleft))
    · refine ⟨_, mem_finish.mpr (.inr ⟨step, hleft₂, rfl⟩), ?_⟩
      rw [hskip]
      rfl

private theorem recordOf?_timeless_eq (hn : (w.steps.map (·.id)).Nodup) (h₁ : Consistent w s₁)
    (h₂ : Consistent w s₂) (h : s₁.Within s₂) (h' : s₂.Within s₁) (d : String) :
    (s₁.recordOf? w.steps d).map StepRecord.timeless =
      (s₂.recordOf? w.steps d).map StepRecord.timeless := by
  cases hr : s₁.recordOf? w.steps d with
  | some r =>
    obtain ⟨q, hq, he⟩ := h₁.recordOf?_within h₂ h hn hr
    rw [hq, Option.map_some, Option.map_some, he]
  | none =>
    cases hq : s₂.recordOf? w.steps d with
    | none => rfl
    | some q =>
      obtain ⟨r, hr', -⟩ := h₂.recordOf?_within h₁ h' hn hq
      rw [hr] at hr'
      simp at hr'

private theorem outputs_eq (h₁ : Consistent w s₁) (h₂ : Consistent w s₂) (h : s₁.Within s₂)
    (h' : s₂.Within s₁) : s₁.outputs = s₂.outputs := by
  apply Entries.ext_get? h₁.sorted h₂.sorted
  intro key
  cases hv : Entries.get? s₁.outputs key with
  | some v => rw [h₁.outputs_within h₂ h hv]
  | none =>
    by_contra hne
    obtain ⟨v, hv'⟩ := Option.ne_none_iff_exists'.mp (Ne.symm hne)
    rw [h₂.outputs_within h₁ h' hv'] at hv
    simp at hv

private theorem timeless_perm (h₁ : Consistent w s₁) (h₂ : Consistent w s₂) (h : s₁.Within s₂)
    (h' : s₂.Within s₁) : (s₁.recorded.map fun p => (p.1, p.2.timeless)).Perm
      (s₂.recorded.map fun p => (p.1, p.2.timeless)) := by
  have hnodup {u : State} (hu : Consistent w u) :
      (u.recorded.map fun p => (p.1, p.2.timeless)).Nodup := by
    apply List.Nodup.of_map Prod.fst
    rw [List.map_map]
    exact hu.positions
  have hsub {u v : State} (huv : u.Within v) : ∀ x ∈ u.recorded.map fun p => (p.1, p.2.timeless),
      x ∈ v.recorded.map fun p => (p.1, p.2.timeless) := by
    intro x hx
    obtain ⟨p, hp, rfl⟩ := List.mem_map.mp hx
    obtain ⟨r, hr, he⟩ := huv p hp
    exact List.mem_map.mpr ⟨_, hr, by rw [he]⟩
  rw [List.perm_ext_iff_of_nodup (hnodup h₁) (hnodup h₂)]
  exact fun x => ⟨hsub h x, hsub h' x⟩

/-- States that hold the same give results that agree. -/
theorem result_agrees {u₁ u₂ : State} (hn : (w.steps.map (·.id)).Nodup) (hu₁ : Consistent w u₁)
    (hu₂ : Consistent w u₂) (h : u₁.Within u₂) (h' : u₂.Within u₁) (id₁ id₂ : Id)
    (started₁ finished₁ started₂ finished₂ : Time.Instant) :
    (result w id₁ started₁ finished₁ u₁).Agrees (result w id₂ started₂ finished₂ u₂) := by
  have hsteps : ((u₁.recorded.map (·.2)).reverse.map StepRecord.timeless).Perm
      ((u₂.recorded.map (·.2)).reverse.map StepRecord.timeless) := by
    have hsnd := (timeless_perm hu₁ hu₂ h h').map Prod.snd
    simp only [List.map_map] at hsnd
    rw [List.map_reverse, List.map_reverse, List.map_map, List.map_map]
    exact (List.reverse_perm _).trans (hsnd.trans (List.reverse_perm _).symm)
  have hcount (status : StepStatus) :
      ((u₁.recorded.map (·.2)).reverse.filter (·.status = status)).length =
        ((u₂.recorded.map (·.2)).reverse.filter (·.status = status)).length := by
    have hfilter := (hsteps.filter (·.status = status)).length_eq
    rw [List.filter_map, List.filter_map, List.length_map, List.length_map] at hfilter
    exact hfilter
  constructor
  case steps => exact hsteps
  case step? =>
    intro d
    rw [step?_result hu₁ hn, step?_result hu₂ hn]
    exact recordOf?_timeless_eq hn hu₁ hu₂ h h' d
  case context => exact outputs_eq hu₁ hu₂ h h'
  case total => rfl
  case succeeded => exact hcount _
  case failed => exact hcount _
  case skipped => exact hcount _
  case status => exact congrArg (overallStatus w.steps.length) (hcount .completed)

end Run

/-- A compiled workflow without complaints, run under continue-on-failure one step at a time and in
waves, with drivers whose answers depend on the operation, the resolved parameters and the number of
earlier attempts alone: both runs end with the same records, outputs, counts and status. -/
theorem Engine.execute_agrees {c : Compiler} {wid : Id} {created : Time.Instant} {b : Blueprint}
    {params : Params} (hvalid : (c.compile wid created b params).validation.isValid = true)
    (hpolicy : c.errorPolicy = .continueOnFailure) {e₁ e₂ : Engine} (he : e₁.Kin e₂)
    {answer : String → String → Members → Nat → Option Outcome} {id₁ id₂ : Id}
    {log₁ log₂ : List Run.Event} {x₁ x₂ : Except Workflow.Invalid RunResult}
    (h₁ : Run.Ends e₁ (e₁.execute (c.compile wid created b params) id₁) log₁ x₁)
    (ho₁ : Run.Obeys (Run.plainly answer) log₁)
    (h₂ : Run.Ends e₂ (e₂.execute (c.compile wid created b params) id₂) log₂ x₂)
    (ho₂ : Run.Obeys (Run.plainly answer) log₂) :
    ∃ r₁ r₂, x₁ = .ok r₁ ∧ x₂ = .ok r₂ ∧ r₁.Agrees r₂ := by
  have hw := Compiler.compile_sound hvalid
  obtain ⟨started₁, finished₁, left₁, s₁, rfl, hs₁, hr₁⟩ := Run.Stage.of_ends hvalid h₁
  obtain ⟨started₂, finished₂, left₂, s₂, rfl, hs₂, hr₂⟩ := Run.Stage.of_ends hvalid h₂
  have h : s₁.Within s₂ := hs₁.within_of_obeys hw hpolicy he ho₁ hs₂ ho₂ hr₂
  have h' : s₂.Within s₁ := hs₂.within_of_obeys hw hpolicy he.symm ho₂ hs₁ ho₁ hr₁
  refine ⟨_, _, rfl, rfl, Run.result_agrees hw.ids (hs₁.finish_consistent hw hpolicy)
    (hs₂.finish_consistent hw hpolicy) ?_ ?_ _ _ _ _ _ _⟩
  · exact hs₁.finish_within hs₂ h h'
  · exact hs₂.finish_within hs₁ h' h

/-- Mail is sent once in waves and once step by step, by a driver that finds a sender and fails the
first attempt to send. -/
theorem Engine.execute_agrees_fetchThenSend :
    let w := Run.mailer.compile .zero ⟨0, 0⟩ Run.fetchThenSend []
    let e₁ : Engine := ⟨Run.mailer.registry, { concurrent := true, maxRetries := 1 }⟩
    let e₂ : Engine := ⟨Run.mailer.registry, { concurrent := false, maxRetries := 1 }⟩
    let answer : String → String → Members → Nat → Option Outcome := fun _ operation _ k =>
      if operation = "fetch" then some (.ok (.object [("sender", .string "x")]))
      else if k = 0 then none else some (.ok .null)
    w.validation.isValid = true ∧ Run.mailer.errorPolicy = .continueOnFailure ∧ e₁.Kin e₂ ∧
      ∃ log₁ log₂ r₁ r₂, Run.Ends e₁ (e₁.execute w .zero) log₁ (.ok r₁) ∧
        Run.Obeys (Run.plainly answer) log₁ ∧ Run.Ends e₂ (e₂.execute w .zero) log₂ (.ok r₂) ∧
        Run.Obeys (Run.plainly answer) log₂ ∧ r₁.Agrees r₂ := by
  intro w e₁ e₂ answer
  have hvalid : w.validation.isValid = true := by decide +kernel
  have he : e₁.Kin e₂ := ⟨rfl, rfl⟩
  obtain ⟨log₁, x₁, h₁, ho₁⟩ :=
    Run.Point.reaches_end e₁ (Run.plainly answer) (.asking (e₁.execute w .zero))
  obtain ⟨log₂, x₂, h₂, ho₂⟩ :=
    Run.Point.reaches_end e₂ (Run.plainly answer) (.asking (e₂.execute w .zero))
  obtain ⟨r₁, r₂, rfl, rfl, hr⟩ := Engine.execute_agrees hvalid rfl he h₁ ho₁ h₂ ho₂
  exact ⟨hvalid, rfl, he, log₁, log₂, r₁, r₂, h₁, ho₁, h₂, ho₂, hr⟩

end Automation
