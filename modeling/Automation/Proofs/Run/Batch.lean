import Automation.Proofs.Run.Course

/-!
# Batches of a run

The attempts at the calls of a batch interleave, but how those at one call end depends only on the
answers that they get themselves. A run that ends therefore falls into batches, each with a verdict
for every call, and comes to a stage at which no more steps are ready.
-/

namespace Automation.Run

/-- Answers the calls of one step, each by what stands under the number of earlier calls. -/
def answering (answers : Nat → Option Outcome) : (r : AttemptRequest) → Nat → r.Answer × Nat
  | .call _ _, k => (answers k, k + 1)
  | .pause _, k => ((), k)

/-- How the attempts at a call end if they get these answers. -/
def verdictOf (e : Engine) (c : StepCall) (answers : Nat → Option Outcome) : Verdict :=
  (Process.run (answering answers) (Attempt.run e.registry e.settings c) 0).1

/-- What the attempts at the calls of a batch come to, and the events of all of them. -/
structure Attempted (e : Engine) (cs : List StepCall) (log : List Event) (vs : List Verdict) :
    Prop where
  verdicts : List.Forall₂ (fun c v => ∃ answers, v = verdictOf e c answers ∧
    ∀ k < v.attempts, Event.called c k (answers k) ∈ log) cs vs
  events : ∀ ev ∈ log, ∃ c ∈ cs, ∃ k a, ev = .called c k a

/-! ## Attempts at one call -/

private theorem le_run_answering (answers : Nat → Option Outcome) (p : Attempting Verdict)
    (made : Nat) : made ≤ (Process.run (answering answers) p made).2 := by
  induction p generalizing made with
  | done v => exact Nat.le_refl made
  | ask r next ih =>
    cases r with
    | call c secs => exact Nat.le_trans (Nat.le_succ made) (ih _ _)
    | pause ms => exact ih _ _

theorem run_answering_congr {answers answers' : Nat → Option Outcome} {p : Attempting Verdict}
    {made : Nat} (h : ∀ k, made ≤ k → k < (Process.run (answering answers) p made).2 →
      answers k = answers' k) :
    Process.run (answering answers) p made = Process.run (answering answers') p made := by
  induction p generalizing made with
  | done v => rfl
  | ask r next ih =>
    cases r with
    | call c secs =>
      have hmade : answers made = answers' made :=
        h made (Nat.le_refl made) (le_run_answering answers (next (answers made)) (made + 1))
      change Process.run (answering answers) (next (answers made)) (made + 1) =
        Process.run (answering answers') (next (answers' made)) (made + 1)
      rw [← hmade]
      exact ih (answers made) fun k hk => h k (Nat.le_of_succ_le hk)
    | pause ms => exact ih () h

/-- Attempts that call nothing but `c`. -/
inductive Only (c : StepCall) : Attempting Verdict → Prop where
  | done (v : Verdict) : Only c (.done v)
  | call {secs : Nat} {next : Option Outcome → Attempting Verdict} :
      (∀ a, Only c (next a)) → Only c (.ask (.call c secs) next)
  | pause {ms : Nat} {next : Unit → Attempting Verdict} :
      Only c (next ()) → Only c (.ask (.pause ms) next)

private theorem Only.of_call {c c' : StepCall} {secs : Nat}
    {next : Option Outcome → Attempting Verdict}
    (h : Only c (.ask (.call c' secs) next)) : c' = c ∧ ∀ a, Only c (next a) := by
  cases h with
  | call h => exact ⟨rfl, h⟩

private theorem Only.of_pause {c : StepCall} {ms : Nat} {next : Unit → Attempting Verdict}
    (h : Only c (.ask (.pause ms) next)) : Only c (next ()) := by
  cases h with
  | pause h => exact h

/-- What the answer to a call leads to. -/
def afterCall (settings : RunSettings) (c : StepCall) (left made : Nat) (answer : Option Outcome) :
    Attempting Verdict :=
  match Attempt.judge settings.stepTimeoutSecs answer with
  | .ok output => .done ⟨made + 1, .ok output⟩
  | .error e => Attempt.repeatCalls settings c left (made + 1) e

theorem repeatCalls_succ (settings : RunSettings) (c : StepCall) (left made : Nat)
    (error : String) :
    Attempt.repeatCalls settings c (left + 1) made error =
      if made > 0 then
        .ask (.pause (settings.retryDelay (made - 1))) fun _ =>
          .ask (.call c settings.stepTimeoutSecs) (afterCall settings c left made)
      else .ask (.call c settings.stepTimeoutSecs) (afterCall settings c left made) := by
  by_cases h : made > 0
  · rw [if_pos h, Attempt.repeatCalls, if_pos h]
    rfl
  · rw [if_neg h, Attempt.repeatCalls, if_neg h]
    rfl

private theorem repeatCalls_only (settings : RunSettings) (c : StepCall) (left made : Nat)
    (error : String) : Only c (Attempt.repeatCalls settings c left made error) := by
  induction left generalizing made error with
  | zero => exact .done _
  | succ left ih =>
    have hnext (a : Option Outcome) : Only c (afterCall settings c left made a) := by
      unfold afterCall
      split
      · exact .done _
      · exact ih _ _
    rw [repeatCalls_succ]
    split
    · exact .pause (.call hnext)
    · exact .call hnext

private theorem attempt_only (registry : Registry) (settings : RunSettings) (c : StepCall) :
    Only c (Attempt.run registry settings c) := by
  unfold Attempt.run
  split
  · exact .done _
  · exact repeatCalls_only _ _ _ _ _

private theorem repeatCalls_attempts (settings : RunSettings) (c : StepCall)
    (answers : Nat → Option Outcome) (left made : Nat) (error : String) :
    (Process.run (answering answers) (Attempt.repeatCalls settings c left made error) made).2 =
      (Process.run (answering answers)
        (Attempt.repeatCalls settings c left made error) made).1.attempts := by
  induction left generalizing made error with
  | zero => rfl
  | succ left ih =>
    have hnext (a : Option Outcome) :
        (Process.run (answering answers) (afterCall settings c left made a) (made + 1)).2 =
          (Process.run (answering answers)
            (afterCall settings c left made a) (made + 1)).1.attempts := by
      unfold afterCall
      split
      · rfl
      · exact ih _ _
    rw [repeatCalls_succ]
    split <;> exact hnext (answers made)

private theorem attempt_attempts (e : Engine) (c : StepCall) (answers : Nat → Option Outcome) :
    (Process.run (answering answers) (Attempt.run e.registry e.settings c) 0).2 =
      (verdictOf e c answers).attempts := by
  unfold verdictOf Attempt.run
  split
  · rfl
  · exact repeatCalls_attempts _ _ _ _ _ _

theorem verdictOf_congr {e : Engine} {c : StepCall} {answers answers' : Nat → Option Outcome}
    (h : ∀ k < (verdictOf e c answers).attempts, answers k = answers' k) :
    verdictOf e c answers = verdictOf e c answers' := by
  have hrun : Process.run (answering answers) (Attempt.run e.registry e.settings c) 0 =
      Process.run (answering answers') (Attempt.run e.registry e.settings c) 0 :=
    run_answering_congr fun k _ hk => h k (attempt_attempts e c answers ▸ hk)
  rw [verdictOf, verdictOf, hrun]

theorem verdictOf_attempts_pos {e : Engine} {c : StepCall} (h : e.registry.has c.driver = true)
    (answers : Nat → Option Outcome) : 0 < (verdictOf e c answers).attempts := by
  obtain ⟨left, hleft⟩ : ∃ left, e.settings.maxAttempts = left + 1 :=
    Nat.exists_eq_succ_of_ne_zero (by simp [RunSettings.maxAttempts])
  obtain ⟨info, hinfo⟩ : ∃ info, e.registry.find c.driver = .ok info := by
    unfold Registry.find
    cases hget : Entries.get? e.registry.drivers c.driver with
    | none => simp [Registry.has, Entries.has, hget] at h
    | some info => exact ⟨info, rfl⟩
  rw [← attempt_attempts, Attempt.run, hinfo, hleft, repeatCalls_succ]
  exact le_run_answering answers (afterCall e.settings c left 0 (answers 0)) 1

/-! ## Attempts at the calls of a batch -/

/-- The attempts at a call end with the verdict on answers that are among the events. -/
def Effort.EndsWith (log : List Event) (f : Effort) (v : Verdict) : Prop :=
  ∃ answers, (Process.run (answering answers) f.rest f.made).1 = v ∧
    ∀ k, f.made ≤ k → k < (Process.run (answering answers) f.rest f.made).2 →
      Event.called f.call k (answers k) ∈ log

private theorem Effort.EndsWith.mono {f : Effort} {v : Verdict} {log log' : List Event}
    (h : f.EndsWith log v) : f.EndsWith (log' ++ log) v := by
  obtain ⟨answers, hv, hc⟩ := h
  exact ⟨answers, hv, fun k h₁ h₂ => List.mem_append_right _ (hc k h₁ h₂)⟩

private theorem Effort.Move.call_eq {f g : Effort} {log : List Event} (m : Effort.Move f log g) :
    g.call = f.call := by
  cases m <;> rfl

private theorem Effort.Move.only {f g : Effort} {log : List Event} (m : Effort.Move f log g)
    (h : Only f.call f.rest) : Only g.call g.rest := by
  cases m with
  | called answer => exact h.of_call.2 answer
  | paused => exact h.of_pause

private theorem Effort.Move.events {f g : Effort} {log : List Event} (m : Effort.Move f log g)
    (h : Only f.call f.rest) : ∀ ev ∈ log, ∃ k a, ev = .called f.call k a := by
  cases m with
  | called answer =>
    obtain ⟨rfl, _⟩ := h.of_call
    simp
  | paused => simp

private theorem Effort.Move.endsWith {f g : Effort} {log log' : List Event} {v : Verdict}
    (m : Effort.Move f log g) (ho : Only f.call f.rest) (h : g.EndsWith log' v) :
    f.EndsWith (log ++ log') v := by
  obtain ⟨answers, hv, hc⟩ := h
  cases m with
  | @called b made c secs next answer =>
    obtain ⟨rfl, _⟩ := ho.of_call
    -- later calls have greater numbers, so the answer to this one may be chosen freely
    let answers' := Function.update answers made answer
    have hlater (k : Nat) (hk : made + 1 ≤ k) : answers k = answers' k :=
      (Function.update_of_ne (by omega) _ _).symm
    have hrun : Process.run (answering answers') (.ask (.call c secs) next) made =
        Process.run (answering answers) (next answer) (made + 1) := by
      change Process.run (answering answers') (next (answers' made)) (made + 1) = _
      rw [show answers' made = answer from Function.update_self ..]
      exact (run_answering_congr fun k hk _ => hlater k hk).symm
    refine ⟨answers', by rw [hrun, hv], fun k h₁ h₂ => ?_⟩
    rw [hrun] at h₂
    by_cases hk : k = made
    · subst hk
      simp [answers']
    · rw [← hlater k (by simp only at h₁; omega)]
      exact List.mem_append_right _ (hc k (by simp only at h₁ ⊢; omega) h₂)
  | paused => exact ⟨answers, hv, fun k h₁ h₂ => hc k h₁ h₂⟩

private theorem Effort.MoveOne.call_eq {fs gs : List Effort} {log : List Event}
    (m : Effort.MoveOne fs log gs) : gs.map Effort.call = fs.map Effort.call := by
  induction m with
  | here m => simp [m.call_eq]
  | there _ ih => simp [ih]

private theorem Effort.MoveOne.only {fs gs : List Effort} {log : List Event}
    (m : Effort.MoveOne fs log gs) (h : ∀ f ∈ fs, Only f.call f.rest) :
    ∀ g ∈ gs, Only g.call g.rest := by
  induction m with
  | here m =>
    simp only [List.forall_mem_cons] at h ⊢
    exact ⟨m.only h.1, h.2⟩
  | there _ ih =>
    simp only [List.forall_mem_cons] at h ⊢
    exact ⟨h.1, ih h.2⟩

private theorem Effort.MoveOne.events {fs gs : List Effort} {log : List Event}
    (m : Effort.MoveOne fs log gs) (h : ∀ f ∈ fs, Only f.call f.rest) :
    ∀ ev ∈ log, ∃ c ∈ fs.map Effort.call, ∃ k a, ev = .called c k a := by
  induction m with
  | here m =>
    intro ev hev
    exact ⟨_, by simp, m.events (h _ (by simp)) ev hev⟩
  | there _ ih =>
    intro ev hev
    obtain ⟨c, hc, hk⟩ := ih (fun f hf => h f (by simp [hf])) ev hev
    exact ⟨c, List.mem_cons_of_mem _ hc, hk⟩

private theorem Effort.MoveOne.endsWith {fs gs : List Effort} {log log' : List Event}
    {vs : List Verdict} (m : Effort.MoveOne fs log gs) (ho : ∀ f ∈ fs, Only f.call f.rest)
    (h : List.Forall₂ (Effort.EndsWith log') gs vs) :
    List.Forall₂ (Effort.EndsWith (log ++ log')) fs vs := by
  induction m generalizing vs with
  | here m =>
    cases h with
    | cons h hs => exact .cons (m.endsWith (ho _ (by simp)) h) (hs.imp fun _ _ h => h.mono)
  | there _ ih =>
    cases h with
    | cons h hs => exact .cons h.mono (ih (fun f hf => ho f (by simp [hf])) hs)

variable {α : Type}

/-- A run in the middle of a batch ends the attempts, records them and goes on. -/
theorem Course.split_attempting {e : Engine} {fs : List Effort} {next : List Verdict → Running α}
    {log : List Event} {a : α} (h : Course e (.attempting fs next) log (.asking (.done a)))
    (ho : ∀ f ∈ fs, Only f.call f.rest) :
    ∃ vs log₁ log₂, log = log₁ ++ records (fs.map Effort.call) vs ++ log₂ ∧
      List.Forall₂ (Effort.EndsWith log₁) fs vs ∧
      (∀ ev ∈ log₁, ∃ c ∈ fs.map Effort.call, ∃ k a, ev = .called c k a) ∧
      Ends e (next vs) log₂ a := by
  generalize hp : Point.attempting fs next = p at h
  generalize hq : Point.asking (Process.done a) = q at h
  induction h generalizing fs with
  | stay => simp [← hp] at hq
  | move m c ih =>
    subst hp hq
    cases m with
    | attempted m =>
      obtain ⟨vs, log₁, log₂, rfl, hv, hev, hend⟩ := ih (m.only ho) rfl rfl
      rw [m.call_eq] at hev ⊢
      refine ⟨vs, _ ++ log₁, log₂, by simp only [List.append_assoc], m.endsWith ho hv, ?_, hend⟩
      intro ev hmem
      rcases List.mem_append.mp hmem with hmem | hmem
      · exact m.events ho ev hmem
      · exact hev ev hmem
    | finished hv =>
      refine ⟨_, [], _, rfl, hv.imp fun f v hd => ?_, by simp, c⟩
      refine ⟨fun _ => none, by rw [hd]; rfl, fun k h₁ h₂ => ?_⟩
      rw [hd] at h₂
      exact absurd h₂ (Nat.not_lt.mpr h₁)

/-- A run that begins with a batch gets a verdict for every call, records them and goes on. -/
theorem Ends.split_dispatch {e : Engine} {cs : List StepCall} {next : List Verdict → Running α}
    {log : List Event} {a : α} (h : Ends e (.ask (.dispatch cs) next) log a) :
    ∃ vs log₁ log₂, log = log₁ ++ records cs vs ++ log₂ ∧ Attempted e cs log₁ vs ∧
      Ends e (next vs) log₂ a := by
  cases h with
  | move m c =>
    cases m with
    | begun =>
      have hcalls : (cs.map (Effort.start e)).map Effort.call = cs := by
        simp [Effort.start, Function.comp_def]
      obtain ⟨vs, log₁, log₂, rfl, hv, hev, hend⟩ := c.split_attempting fun f hf => by
        obtain ⟨c, _, rfl⟩ := List.mem_map.mp hf
        exact attempt_only _ _ c
      rw [hcalls] at hev ⊢
      refine ⟨vs, log₁, log₂, rfl, ⟨?_, hev⟩, hend⟩
      rw [List.forall₂_map_left_iff] at hv
      refine hv.imp fun c v ⟨answers, he, hc⟩ => ?_
      have hcount := attempt_attempts e c answers
      rw [show verdictOf e c answers = v from he] at hcount
      exact ⟨answers, he.symm, fun k hk => hc k (Nat.zero_le k) (hcount ▸ hk)⟩

private theorem Ends.split_now {e : Engine} {next : Time.Instant → Running α} {log : List Event}
    {a : α} (h : Ends e (.ask .now next) log a) : ∃ t, Ends e (next t) log a := by
  cases h with
  | move m c =>
    cases m with
    | told t => exact ⟨t, c⟩

theorem Ends.eq_of_done {e : Engine} {log : List Event} {a b : α} (h : Ends e (.done b) log a) :
    log = [] ∧ a = b := by
  obtain ⟨rfl, hp⟩ := Course.of_done h
  simp only [Point.asking.injEq, Process.done.injEq] at hp
  exact ⟨rfl, hp⟩

/-! ## All batches of a run -/

/-- How far a run has come after some of its batches: which steps remain, where it stands, and the
events so far. -/
inductive Stage (e : Engine) (w : Workflow) (now : Time.Instant) :
    List (Nat × Step) → State → List Event → Prop where
  | start : Stage e w now (positions w) {} []
  | batch {remaining : List (Nat × Step)} {s : State} {log log' : List Event} {vs : List Verdict} :
      Stage e w now remaining s log → ready w s remaining ≠ [] →
      Attempted e (calls w s (nextBatch e.settings.concurrent (ready w s remaining))) log' vs →
        Stage e w now (without (nextBatch e.settings.concurrent (ready w s remaining)) remaining)
          (afterBatch w now s (nextBatch e.settings.concurrent (ready w s remaining)) vs)
          (log ++ (log' ++
            records (calls w s (nextBatch e.settings.concurrent (ready w s remaining))) vs))

/-- Where a run stands in the end: the steps that are left can never start. -/
def finish (now : Time.Instant) (left : List (Nat × Step)) (s : State) : State :=
  s.skipAll now (neverReady left)

private theorem Stage.loop_ends {e : Engine} {w : Workflow} {now : Time.Instant}
    {remaining : List (Nat × Step)} {s : State} {past : List Event}
    (hs : Stage e w now remaining s past) {next : State → Running α} {log : List Event} {a : α}
    (h : Ends e ((loop w e.settings.concurrent now remaining s).andThen next) log a) :
    ∃ left t log₁ log₂, log = log₁ ++ log₂ ∧ Stage e w now left t (past ++ log₁) ∧
      ready w t left = [] ∧ Ends e (next (finish now left t)) log₂ a := by
  induction remaining, s using loop.induct w e.settings.concurrent now generalizing past log with
  | case1 remaining s hr =>
    rw [loop, dif_pos hr] at h
    exact ⟨remaining, s, [], log, rfl, by simpa using hs, hr, h⟩
  | case2 remaining s hr batch =>
    rename_i ih
    rw [loop, dif_neg hr] at h
    obtain ⟨vs, log₁, log₂, rfl, hbatch, hend⟩ := Ends.split_dispatch h
    obtain ⟨left, t, log₃, log₄, rfl, hstage, hready, hfin⟩ := ih vs (hs.batch hr hbatch) hend
    refine ⟨left, t, log₁ ++ records (calls w s batch) vs ++ log₃, log₄, ?_, ?_, hready, hfin⟩
    · simp only [batch, List.append_assoc]
    · simpa only [batch, List.append_assoc] using hstage

/-- The run of a workflow that may run ends with the account of a stage at which no step is ready:
the steps that are left can never start. -/
theorem Stage.of_ends {e : Engine} {w : Workflow} {id : Id} {log : List Event}
    {x : Except Workflow.Invalid RunResult} (hw : w.validation.isValid = true)
    (h : Ends e (e.execute w id) log x) :
    ∃ started finished left s, x = .ok (result w id started finished (finish started left s)) ∧
      Stage e w started left s log ∧ ready w s left = [] := by
  rw [Engine.execute, show w.ensureValid = .ok () by simp [Workflow.ensureValid, hw]] at h
  obtain ⟨started, h⟩ := Ends.split_now h
  obtain ⟨left, s, log₁, log₂, rfl, hstage, hready, h⟩ :=
    Stage.loop_ends .start h
  obtain ⟨finished, h⟩ := Ends.split_now h
  obtain ⟨rfl, rfl⟩ := h.eq_of_done
  exact ⟨started, finished, left, s, rfl, by simpa using hstage, hready⟩

end Automation.Run
