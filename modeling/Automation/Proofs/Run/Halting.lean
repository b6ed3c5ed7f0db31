import Automation.Proofs.Run.Explained
import Automation.Proofs.Run.Rehearsal

/-!
# Runs that stop at a failure

Under fail-fast a failure halts a run after the batch that it happened in: later batches call no
driver and skip all their steps. Nothing else halts it. As long as no step has failed, a step whose
dependencies completed and whose references have values is dispatched, whatever was skipped before.
-/

namespace Automation

namespace Run

/-- A batch of a run: where the run stood before it, its steps, the events of the attempts at their
calls, and how these attempts ended. -/
structure Batch where
  before : State
  steps : List (Nat × Step)
  log : List Event
  verdicts : List Verdict

/-- The events of the batch: those of the attempts, and then the verdicts. -/
def Batch.events (w : Workflow) (b : Batch) : List Event :=
  b.log ++ Run.records (calls w b.before b.steps) b.verdicts

/-- The records of the batch, those of steps that were not dispatched before the others. -/
def Batch.records (w : Workflow) (now : Time.Instant) (b : Batch) : List (Nat × StepRecord) :=
  skipRecords now (skips w b.before b.steps) ++
    attemptRecords now ((dispatches w b.before b.steps).zip b.verdicts)

/-- A step of the batch failed. -/
def Batch.Fails (w : Workflow) (now : Time.Instant) (b : Batch) : Prop :=
  ∃ p ∈ b.records w now, p.2.status = .failed

/-- No driver is called in the batch, and all its steps are skipped without an attempt. -/
structure Batch.Idle (w : Workflow) (now : Time.Instant) (b : Batch) : Prop where
  calls : ∀ c k a, .called c k a ∉ b.events w
  skipped : ∀ p ∈ b.records w now, p.2.status = .skipped ∧ p.2.attempts = 0

/-- A run falls into these batches, with the steps that remain and where it stands after them. -/
inductive Divided (e : Engine) (w : Workflow) (now : Time.Instant) :
    List Batch → List (Nat × Step) → State → Prop where
  | start : Divided e w now [] (positions w) {}
  | batch {bs : List Batch} {b : Batch} {remaining : List (Nat × Step)} :
      Divided e w now bs remaining b.before → ready w b.before remaining ≠ [] →
      b.steps = nextBatch e.settings.concurrent (ready w b.before remaining) →
      Attempted e (calls w b.before b.steps) b.log b.verdicts →
        Divided e w now (bs ++ [b]) (without b.steps remaining)
          (afterBatch w now b.before b.steps b.verdicts)

/-- A failure stops all later batches, and nothing else stops one: a step of a batch before which
none failed is dispatched if its dependencies completed and its references have values. -/
structure StopsAtFailure (w : Workflow) (now : Time.Instant) (bs : List Batch) : Prop where
  stops : bs.Pairwise fun b b' => b.Fails w now → b'.Idle w now
  goesOn : ∀ (pre : List Batch) (b : Batch) (post : List Batch), bs = pre ++ b :: post →
    (∀ b' ∈ pre, ¬ b'.Fails w now) → ∀ (i : Nat) (step : Step), (i, step) ∈ b.steps →
      (∀ d ∈ w.dependenciesOf step.id, ∃ r, b.before.recordOf? w.steps d = some r ∧
        r.status = .completed) →
      ∀ parameters, b.before.outputs.resolveMembers step.parameters = .ok parameters →
        ∃ v, .recorded ⟨i, step.driver, step.operation, parameters, b.before.outputs⟩ v ∈ b.events w

/-- What comes after a failed record is skipped without an attempt. -/
def Trails (earlier later : StepRecord) : Prop :=
  earlier.status = .failed → later.status = .skipped ∧ later.attempts = 0

variable {e : Engine} {w : Workflow} {now : Time.Instant} {s : State} {bs : List Batch} {b : Batch}
  {remaining : List (Nat × Step)} {log : List Event}

/-! ## What halts a run -/

private theorem State.skipAll_halted (s : State) (now : Time.Instant)
    (skipped : List (Nat × Step × SkipReason)) : (s.skipAll now skipped).halted = s.halted := by
  unfold State.skipAll
  induction skipped generalizing s with
  | nil => rfl
  | cons x skipped ih => exact ih _

private theorem State.conclude_halted_iff (s : State) (policy : ErrorPolicy) (i : Nat) (step : Step)
    (v : Verdict) (now : Time.Instant) : (s.conclude policy i step v now).halted = true ↔
      s.halted = true ∨ policy = .failFast ∧ (attemptedRecord step v now).status = .failed := by
  cases hv : v.result <;> simp [State.conclude, attemptedRecord, hv]

private theorem State.concludeAll_halted_iff (s : State) (policy : ErrorPolicy) (now : Time.Instant)
    (attempted : List ((Nat × Step × StepCall) × Verdict)) :
    (s.concludeAll policy now attempted).halted = true ↔ s.halted = true ∨
      policy = .failFast ∧ ∃ p ∈ attemptRecords now attempted, p.2.status = .failed := by
  unfold State.concludeAll
  induction attempted generalizing s with
  | nil => simp [attemptRecords]
  | cons x attempted ih =>
    rw [List.foldl_cons, ih, State.conclude_halted_iff]
    simp only [attemptRecords, List.map_cons, List.exists_mem_cons_iff]
    tauto

/-- A batch halts a run if one of its steps fails and the policy asks for a halt. -/
theorem afterBatch_halted_iff (w : Workflow) (now : Time.Instant) (b : Batch) :
    (afterBatch w now b.before b.steps b.verdicts).halted = true ↔
      b.before.halted = true ∨ w.errorPolicy = .failFast ∧ b.Fails w now := by
  have hskips : ∀ p ∈ skipRecords now (skips w b.before b.steps), p.2.status ≠ .failed := by
    intro p hp
    obtain ⟨x, -, rfl⟩ := List.mem_map.mp hp
    simp [skippedRecord]
  have hfails : b.Fails w now ↔
      ∃ p ∈ attemptRecords now ((dispatches w b.before b.steps).zip b.verdicts),
        p.2.status = .failed := by
    simp only [Batch.Fails, Batch.records, List.mem_append, or_and_right, exists_or]
    refine or_iff_right ?_
    rintro ⟨p, hp, hfailed⟩
    exact hskips p hp hfailed
  rw [afterBatch, State.concludeAll_halted_iff, State.skipAll_halted, hfails]

private theorem Divided.halted_iff (hpolicy : w.errorPolicy = .failFast)
    (h : Divided e w now bs remaining s) : s.halted = true ↔ ∃ b ∈ bs, b.Fails w now := by
  induction h with
  | start => simp
  | @batch bs b remaining _ _ _ _ ih =>
    rw [afterBatch_halted_iff, ih]
    simp [hpolicy, or_and_right, exists_or]

/-! ## Batches of a halted run -/

private theorem prepare_halted (hs : s.halted = true) (i : Nat) (step : Step) :
    prepare w s i step = .error .halted := by
  rw [prepare, if_pos hs]

private theorem dispatches_halted (hs : s.halted = true) (batch : List (Nat × Step)) :
    dispatches w s batch = [] := by
  simp [dispatches, prepare_halted hs]

private theorem Batch.idle_of_halted (hs : b.before.halted = true)
    (hb : Attempted e (calls w b.before b.steps) b.log b.verdicts) : b.Idle w now := by
  have hcalls : calls w b.before b.steps = [] := by rw [calls, dispatches_halted hs, List.map_nil]
  constructor
  case calls =>
    intro c k a hmem
    obtain ⟨p, -, hprep⟩ := hb.exists_prepare hmem
    rw [prepare_halted hs] at hprep
    cases hprep
  case skipped =>
    intro p hp
    have hskip : p ∈ skipRecords now (skips w b.before b.steps) := by
      simpa [Batch.records, dispatches_halted hs, attemptRecords] using hp
    obtain ⟨x, -, rfl⟩ := List.mem_map.mp hskip
    exact ⟨rfl, rfl⟩

private theorem Divided.stops (hpolicy : w.errorPolicy = .failFast)
    (h : Divided e w now bs remaining s) :
    bs.Pairwise fun b b' => b.Fails w now → b'.Idle w now := by
  induction h with
  | start => exact .nil
  | @batch bs b remaining hbs _ _ hb ih =>
    refine List.pairwise_append.mpr
      ⟨ih, List.pairwise_singleton _ _, fun b₀ hmem b' hb' hfails => ?_⟩
    obtain rfl := List.mem_singleton.mp hb'
    exact Batch.idle_of_halted ((hbs.halted_iff hpolicy).mpr ⟨b₀, hmem, hfails⟩) hb

/-! ## Batches before a failure -/

private theorem prepare_eq_ok (hs : s.halted = false) {i : Nat} {step : Step}
    (hready : isReady w s step = true)
    (hdone : ∀ d ∈ w.dependenciesOf step.id, ∃ r, s.recordOf? w.steps d = some r ∧
      r.status = .completed) {parameters : Json.Members}
    (hres : s.outputs.resolveMembers step.parameters = .ok parameters) :
    prepare w s i step = .ok ⟨i, step.driver, step.operation, parameters, s.outputs⟩ := by
  simp [prepare, hs, (blocker?_eq_none hready).mpr hdone, hres]

private theorem Attempted.exists_recorded {cs : List StepCall} {vs : List Verdict}
    (h : Attempted e cs log vs) {c : StepCall} (hc : c ∈ cs) :
    ∃ v, .recorded c v ∈ Run.records cs vs := by
  have hfst : (cs.zip vs).map Prod.fst = cs := List.map_fst_zip (Nat.le_of_eq h.verdicts.length_eq)
  obtain ⟨⟨c', v⟩, hmem, rfl⟩ := List.mem_map.mp (hfst ▸ hc)
  exact ⟨v, mem_records hmem⟩

private theorem Divided.goesOn (hpolicy : w.errorPolicy = .failFast)
    (h : Divided e w now bs remaining s) {pre post : List Batch} (hsplit : bs = pre ++ b :: post)
    (hpre : ∀ b' ∈ pre, ¬ b'.Fails w now) {i : Nat} {step : Step} (hmem : (i, step) ∈ b.steps)
    (hdone : ∀ d ∈ w.dependenciesOf step.id, ∃ r, b.before.recordOf? w.steps d = some r ∧
      r.status = .completed) {parameters : Json.Members}
    (hres : b.before.outputs.resolveMembers step.parameters = .ok parameters) :
    ∃ v, .recorded ⟨i, step.driver, step.operation, parameters, b.before.outputs⟩ v ∈
      b.events w := by
  induction h generalizing post with
  | start => simp at hsplit
  | @batch bs b' remaining hbs _ hsteps hb ih =>
    rcases List.eq_nil_or_concat post with rfl | ⟨post, b'', rfl⟩
    · obtain ⟨rfl, hbb⟩ := List.append_inj' hsplit rfl
      obtain rfl := List.singleton_inj.mp hbb
      have hgoing : b'.before.halted = false := by
        rw [Bool.eq_false_iff, Ne, hbs.halted_iff hpolicy]
        rintro ⟨b, hb, hfails⟩
        exact hpre b hb hfails
      have hready : isReady w b'.before step = true := mem_nextBatch_ready (hsteps ▸ hmem)
      have hcall : (⟨i, step.driver, step.operation, parameters, b'.before.outputs⟩ : StepCall) ∈
          calls w b'.before b'.steps :=
        List.mem_map.mpr
          ⟨_, mem_dispatches.mpr ⟨hmem, prepare_eq_ok hgoing hready hdone hres⟩, rfl⟩
      obtain ⟨v, hv⟩ := hb.exists_recorded hcall
      exact ⟨v, List.mem_append_right _ hv⟩
    · have hsplit : bs ++ [b'] = (pre ++ b :: post) ++ [b''] := by simpa using hsplit
      exact ih (List.append_inj' hsplit rfl).1

private theorem Divided.stopsAtFailure (hpolicy : w.errorPolicy = .failFast)
    (h : Divided e w now bs remaining s) : StopsAtFailure w now bs where
  stops := h.stops hpolicy
  goesOn := fun _ _ _ hsplit hpre _ _ hmem hdone _ hres =>
    h.goesOn hpolicy hsplit hpre hmem hdone hres

/-! ## Records in their order -/

private theorem Divided.recorded (h : Divided e w now bs remaining s) :
    s.recorded = (bs.flatMap (·.records w now)).reverse := by
  induction h with
  | start => rfl
  | batch _ _ _ _ ih =>
    rw [afterBatch_recorded, ih, List.flatMap_append, List.flatMap_singleton, Batch.records,
      List.reverse_append, List.reverse_append, List.append_assoc]

private theorem Batch.records_length_le (hb : b.steps.length ≤ 1) :
    (b.records w now).length ≤ 1 := by
  have hperm := (skips_dispatches_perm w b.before b.steps).length_eq
  simp only [List.length_reverse, List.length_append, List.length_map] at hperm
  simp only [Batch.records, skipRecords, attemptRecords, List.length_append, List.length_map,
    List.length_zip]
  omega

private theorem pairwise_of_length_le {α : Type} {R : α → α → Prop} {xs : List α}
    (h : xs.length ≤ 1) : xs.Pairwise R := by
  match xs with
  | [] => exact .nil
  | [x] => exact List.pairwise_singleton R x

private theorem Divided.trails (hpolicy : w.errorPolicy = .failFast)
    (hseq : e.settings.concurrent = false) (h : Divided e w now bs remaining s) :
    (bs.flatMap (·.records w now)).Pairwise fun p q => Trails p.2 q.2 := by
  induction h with
  | start => exact .nil
  | @batch bs b remaining hbs _ hsteps hb ih =>
    have hone : b.steps.length ≤ 1 := by
      rw [hsteps, hseq]
      exact List.length_take_le 1 _
    rw [List.flatMap_append, List.flatMap_singleton]
    refine List.pairwise_append.mpr
      ⟨ih, pairwise_of_length_le (Batch.records_length_le hone), fun p hp q hq hfailed => ?_⟩
    obtain ⟨b₀, hmem, hp⟩ := List.mem_flatMap.mp hp
    have hhalted := (hbs.halted_iff hpolicy).mpr ⟨b₀, hmem, p, hp, hfailed⟩
    exact (Batch.idle_of_halted hhalted hb).skipped q hq

private theorem Trails.countP_failed_le {rs : List StepRecord} (h : rs.Pairwise Trails) :
    rs.countP (·.status = .failed) ≤ 1 := by
  induction h with
  | nil => simp
  | @cons r rs hr _ ih =>
    by_cases hfailed : r.status = .failed
    · have hnone : rs.countP (·.status = .failed) = 0 := by
        rw [List.countP_eq_zero]
        intro q hq
        simp [(hr q hq hfailed).1]
      rw [List.countP_cons, hnone]
      split <;> omega
    · rw [List.countP_cons_of_neg (by simpa using hfailed)]
      exact ih

/-! ## The whole run -/

private theorem Stage.exists_divided (h : Stage e w now remaining s log) :
    ∃ bs, Divided e w now bs remaining s ∧ log = bs.flatMap (·.events w) := by
  induction h with
  | start => exact ⟨[], .start, rfl⟩
  | @batch remaining s log log' vs _ hr hb ih =>
    obtain ⟨bs, hbs, rfl⟩ := ih
    let batch := nextBatch e.settings.concurrent (ready w s remaining)
    refine ⟨bs ++ [⟨s, batch, log', vs⟩], .batch hbs hr rfl hb, ?_⟩
    rw [List.flatMap_append, List.flatMap_singleton, Batch.events]

end Run

/-- A run of a valid workflow under fail-fast, with any drivers and settings, falls into batches and
a rest of steps that never become ready. Once a step of a batch fails, no driver is called in a
later batch and all its steps are skipped; before that, nothing is skipped on account of what
happened to steps that it does not depend on. One step at a time, at most one fails, and what is
recorded after it was skipped without an attempt. -/
theorem Engine.execute_failFast {e : Engine} {w : Workflow} {id : Id} {log : List Run.Event}
    {x : Except Workflow.Invalid RunResult} (hvalid : w.validation.isValid = true)
    (hpolicy : w.errorPolicy = .failFast) (h : Run.Ends e (e.execute w id) log x) :
    ∃ r now bs left s, x = .ok r ∧ Run.Divided e w now bs left s ∧
      log = bs.flatMap (·.events w) ∧
      r.steps = (bs.flatMap (·.records w now)
        ++ Run.skipRecords now (Run.neverReady left)).map Prod.snd ∧
      Run.StopsAtFailure w now bs ∧
      (e.settings.concurrent = false → r.failed ≤ 1 ∧ r.steps.Pairwise Run.Trails) := by
  obtain ⟨started, finished, left, s, rfl, hs, -⟩ := Run.Stage.of_ends hvalid h
  obtain ⟨bs, hbs, rfl⟩ := hs.exists_divided
  have hsteps : (Run.result w id started finished (Run.finish started left s)).steps =
      (bs.flatMap (·.records w started)
        ++ Run.skipRecords started (Run.neverReady left)).map Prod.snd := by
    change ((Run.finish started left s).recorded.map Prod.snd).reverse = _
    rw [Run.finish, Run.State.skipAll_recorded, hbs.recorded, ← List.map_reverse,
      ← List.reverse_append, List.reverse_reverse]
  refine ⟨_, started, bs, left, s, rfl, hbs, rfl, hsteps, hbs.stopsAtFailure hpolicy, ?_⟩
  intro hseq
  have hrest : ∀ p ∈ Run.skipRecords started (Run.neverReady left),
      p.2.status = .skipped ∧ p.2.attempts = 0 := by
    intro p hp
    obtain ⟨y, -, rfl⟩ := List.mem_map.mp hp
    exact ⟨rfl, rfl⟩
  have htrails : (Run.result w id started finished (Run.finish started left s)).steps.Pairwise
      Run.Trails := by
    rw [hsteps, List.pairwise_map]
    exact List.pairwise_append.mpr ⟨hbs.trails hpolicy hseq,
      List.pairwise_of_forall_mem_list fun p _ q hq _ => hrest q hq,
      fun p _ q hq _ => hrest q hq⟩
  refine ⟨?_, htrails⟩
  have hcount := Run.Trails.countP_failed_le htrails
  rwa [List.countP_eq_length_filter] at hcount

/-- Two mails that have nothing to do with each other. -/
def Run.twoMails : Blueprint := .plan
  { name := "two mails"
    steps := [⟨"a", "mail", "send", [("to", .string "ann")], []⟩,
      ⟨"b", "mail", "send", [("to", .string "bob")], []⟩] }

/-- The first mail fails, since nobody answers, and the second is not sent. -/
theorem Engine.execute_failFast_twoMails :
    let w := Compiler.compile { Run.mailer with errorPolicy := .failFast } .zero ⟨0, 0⟩
      Run.twoMails []
    let e : Engine := ⟨Run.mailer.registry, {}⟩
    w.validation.isValid = true ∧ w.errorPolicy = .failFast ∧ ∃ log r,
      Run.Ends e (e.execute w .zero) log (.ok r) ∧ r.failed = 1 ∧ r.skipped = 1 ∧
        e.settings.concurrent = false ∧ r.steps.Pairwise Run.Trails := by
  intro w e
  have hvalid : w.validation.isValid = true := by decide +kernel
  have hc := Run.course_rehearse e (e.execute w .zero) []
  obtain ⟨r, -, -, -, -, hr, -, -, -, -, hseq⟩ := Engine.execute_failFast hvalid rfl hc
  have hcounts : ((Run.rehearse e (e.execute w .zero) []).value.toOption.map
      fun r => (r.failed, r.skipped)) = some (1, 1) := by
    decide +kernel
  rw [hr] at hc hcounts
  simp only [Except.toOption, Option.map_some, Option.some.injEq, Prod.mk.injEq] at hcounts
  exact ⟨hvalid, rfl, _, r, hc, hcounts.1, hcounts.2, rfl, (hseq rfl).2⟩

end Automation
