import Automation.Proofs.Process.Course
import Automation.Proofs.Run.Progress

/-!
# Retries

The attempts at a call go on until one succeeds or the allowed number is used up. Recorded is the
first success, or else the failure of the last attempt. Between two attempts there is a pause that
doubles up to a limit. No count leaves the numbers of 32 bits, and no pause those of 64.
-/

namespace Automation

open Json

namespace RunSettings

/-- How many attempts are made at a call if none succeeds. -/
def attemptLimit (s : RunSettings) : Nat := min (s.maxRetries + 1) (2 ^ 32 - 1)

/-- Milliseconds that pass after so many failed attempts, before the next one. -/
def pauseAfter (s : RunSettings) (made : Nat) : Nat :=
  min (s.retryDelayMs * 2 ^ min (made - 1) 16) (2 ^ 64 - 1)

private theorem maxAttempts_eq (s : RunSettings) : s.maxAttempts = s.attemptLimit := rfl

private theorem retryDelay_eq (s : RunSettings) (made : Nat) :
    s.retryDelay (made - 1) = s.pauseAfter made := rfl

private theorem attemptLimit_pos (s : RunSettings) : 0 < s.attemptLimit := by
  unfold attemptLimit
  omega

end RunSettings

namespace Attempt

/-- The answer reports a success. -/
def Succeeds (answer : Option Outcome) : Prop := ∃ o, answer = some o ∧ o.success = true

/-- The text that a failed attempt leaves. -/
def failureText (timeoutSecs : Nat) : Option Outcome → String
  | none => timeoutText timeoutSecs
  | some o => o.error.getD "driver reported failure"

/-- What so many attempts ask for and how they are answered: one call each, and before every call
but the first a pause. -/
def exchanges (settings : RunSettings) (c : StepCall) (answers : Nat → Option Outcome) :
    Nat → List (Exchange AttemptRequest AttemptRequest.Answer)
  | 0 => []
  | n + 1 => exchanges settings c answers n ++
      ((if n = 0 then [] else [⟨.pause (settings.pauseAfter n), ()⟩]) ++
        [⟨.call c settings.stepTimeoutSecs, answers n⟩])

end Attempt

/-- The record is that of a call with these answers: the first success among the attempts, or else
the failure of the last. -/
structure StepRecord.Retried (r : StepRecord) (settings : RunSettings)
    (answers : Nat → Option Outcome) : Prop where
  completed : ∀ k < settings.attemptLimit, (∀ j < k, ¬ Attempt.Succeeds (answers j)) →
    ∀ o, answers k = some o → o.success = true →
      r.status = .completed ∧ r.attempts = k + 1 ∧ r.output = some o.effectiveOutput ∧
        r.error = none
  failed : (∀ j < settings.attemptLimit, ¬ Attempt.Succeeds (answers j)) →
    r.status = .failed ∧ r.attempts = settings.attemptLimit ∧ r.output = none ∧
      r.error = some (Attempt.failureText settings.stepTimeoutSecs
        (answers (settings.attemptLimit - 1)))

namespace Attempt

private theorem judge_of_success (secs : Nat) {o : Outcome} (h : o.success = true) :
    judge secs (some o) = .ok o.effectiveOutput := by
  simp [judge, h]

private theorem judge_of_not_succeeds (secs : Nat) {answer : Option Outcome}
    (h : ¬ Succeeds answer) : judge secs answer = .error (failureText secs answer) := by
  cases answer with
  | none => rfl
  | some o =>
    have hfail : o.success = false := by
      by_contra hne
      exact h ⟨o, rfl, by simpa using hne⟩
    simp [judge, failureText, hfail]

end Attempt

namespace Run

open Attempt

variable {settings : RunSettings} {c : StepCall} {answers : Nat → Option Outcome}

/-! ## One attempt more -/

private theorem run_repeatCalls_succ (left made : Nat) (error : String) :
    Process.run (answering answers) (repeatCalls settings c (left + 1) made error) made =
      Process.run (answering answers) (afterCall settings c left made (answers made))
        (made + 1) := by
  rw [repeatCalls_succ]
  split <;> rfl

private theorem trace_repeatCalls_succ (left made : Nat) (error : String) :
    Process.trace (answering answers) (repeatCalls settings c (left + 1) made error) made =
      (if made = 0 then [] else [⟨.pause (settings.pauseAfter made), ()⟩]) ++
        (⟨.call c settings.stepTimeoutSecs, answers made⟩ ::
          Process.trace (answering answers) (afterCall settings c left made (answers made))
            (made + 1)) := by
  rw [repeatCalls_succ]
  by_cases h : made = 0
  · subst h
    rfl
  · rw [if_pos (Nat.pos_of_ne_zero h), if_neg h, ← settings.retryDelay_eq]
    rfl

private theorem afterCall_of_success {left made : Nat} {o : Outcome} (h : o.success = true) :
    afterCall settings c left made (some o) = .done ⟨made + 1, .ok o.effectiveOutput⟩ := by
  rw [afterCall, judge_of_success _ h]

private theorem afterCall_of_not_succeeds {left made : Nat} {answer : Option Outcome}
    (h : ¬ Succeeds answer) : afterCall settings c left made answer =
      repeatCalls settings c left (made + 1) (failureText settings.stepTimeoutSecs answer) := by
  rw [afterCall, judge_of_not_succeeds _ h]

/-! ## All attempts -/

private theorem run_repeatCalls_of_success {left made k : Nat} {error : String} {o : Outcome}
    (hmade : made ≤ k) (hleft : k < made + left)
    (hbefore : ∀ j, made ≤ j → j < k → ¬ Succeeds (answers j)) (hk : answers k = some o)
    (ho : o.success = true) :
    (Process.run (answering answers) (repeatCalls settings c left made error) made).1 =
      ⟨k + 1, .ok o.effectiveOutput⟩ := by
  induction left generalizing made error with
  | zero => omega
  | succ left ih =>
    rw [run_repeatCalls_succ]
    by_cases h : made = k
    · subst h
      rw [hk, afterCall_of_success ho]
      rfl
    · have hfail : ¬ Succeeds (answers made) := hbefore made (Nat.le_refl made) (by omega)
      rw [afterCall_of_not_succeeds hfail]
      exact ih (by omega) (by omega) fun j hj hjk => hbefore j (by omega) hjk

private theorem run_repeatCalls_of_failures {left made : Nat} {error : String} (hleft : 0 < left)
    (hall : ∀ j, made ≤ j → j < made + left → ¬ Succeeds (answers j)) :
    (Process.run (answering answers) (repeatCalls settings c left made error) made).1 =
      ⟨made + left,
        .error (failureText settings.stepTimeoutSecs (answers (made + left - 1)))⟩ := by
  induction left generalizing made error with
  | zero => omega
  | succ left ih =>
    have hfail : ¬ Succeeds (answers made) := hall made (Nat.le_refl made) (by omega)
    rw [run_repeatCalls_succ, afterCall_of_not_succeeds hfail]
    by_cases h : left = 0
    · subst h
      rfl
    · have hsum : made + 1 + left = made + (left + 1) := by omega
      rw [ih (Nat.pos_of_ne_zero h) fun j hj hjl => hall j (by omega) (by omega), hsum]

private theorem exchanges_append_trace (left made : Nat) (error : String) :
    exchanges settings c answers made ++
        Process.trace (answering answers) (repeatCalls settings c left made error) made =
      exchanges settings c answers
        (Process.run (answering answers) (repeatCalls settings c left made error)
          made).1.attempts := by
  induction left generalizing made error with
  | zero => exact List.append_nil _
  | succ left ih =>
    rw [run_repeatCalls_succ, trace_repeatCalls_succ]
    cases hjudge : judge settings.stepTimeoutSecs (answers made) with
    | ok output =>
      have hafter : afterCall settings c left made (answers made) =
          .done ⟨made + 1, .ok output⟩ := by
        rw [afterCall, hjudge]
      rw [hafter]
      rfl
    | error text =>
      have hafter : afterCall settings c left made (answers made) =
          repeatCalls settings c left (made + 1) text := by
        rw [afterCall, hjudge]
      rw [hafter, ← ih (made + 1) text, exchanges]
      simp only [List.append_assoc, List.singleton_append]

/-! ## Every end of the attempts -/

private theorem trace_answering_congr {answers' : Nat → Option Outcome} (p : Attempting Verdict)
    {made : Nat} (h : ∀ k, made ≤ k → answers k = answers' k) :
    Process.trace (answering answers) p made = Process.trace (answering answers') p made := by
  induction p generalizing made with
  | done v => rfl
  | ask r next ih =>
    cases r with
    | pause ms => exact congrArg (List.cons _) (ih () h)
    | call c secs =>
      change ⟨.call c secs, answers made⟩ ::
          Process.trace (answering answers) (next (answers made)) (made + 1) =
        ⟨.call c secs, answers' made⟩ ::
          Process.trace (answering answers') (next (answers' made)) (made + 1)
      rw [← h made (Nat.le_refl made)]
      exact congrArg (List.cons _) (ih _ fun k hk => h k (Nat.le_of_succ_le hk))

private theorem exists_answers_of_ends {p : Attempting Verdict}
    {log : List (Exchange AttemptRequest AttemptRequest.Answer)} {v : Verdict}
    (h : Process.Ends p log v) (made : Nat) : ∃ answers : Nat → Option Outcome,
      (Process.run (answering answers) p made).1 = v ∧
        Process.trace (answering answers) p made = log := by
  induction p generalizing log made with
  | done u =>
    obtain ⟨rfl, rfl⟩ := h.of_done
    exact ⟨fun _ => none, rfl, rfl⟩
  | ask r next ih =>
    obtain ⟨a, log', rfl, hrest⟩ := h.of_ask
    cases r with
    | pause ms =>
      obtain ⟨answers, hv, hlog⟩ := ih a hrest made
      exact ⟨answers, hv, congrArg (List.cons _) hlog⟩
    | call c secs =>
      obtain ⟨answers, hv, hlog⟩ := ih a hrest (made + 1)
      -- later calls have greater numbers, so the answer to this one may be chosen freely
      let answers' := Function.update answers made a
      have hmade : answers' made = a := Function.update_self ..
      have hlater : ∀ k, made + 1 ≤ k → answers k = answers' k := by
        intro k hk
        exact (Function.update_of_ne (by omega) _ _).symm
      have hrun : Process.run (answering answers') (next a) (made + 1) =
          Process.run (answering answers) (next a) (made + 1) :=
        (run_answering_congr fun k hk _ => hlater k hk).symm
      have htrace := trace_answering_congr (next a) hlater
      refine ⟨answers', ?_, ?_⟩
      · change (Process.run (answering answers') (next (answers' made)) (made + 1)).1 = v
        rw [hmade, hrun, hv]
      · change ⟨.call c secs, answers' made⟩ ::
          Process.trace (answering answers') (next (answers' made)) (made + 1) = _
        rw [hmade, ← htrace, hlog]

/-! ## The attempts at a call -/

variable {e : Engine}

private theorem attempt_eq (h : e.registry.has c.driver = true) :
    Attempt.run e.registry e.settings c =
      repeatCalls e.settings c e.settings.attemptLimit 0 "" := by
  obtain ⟨info, hinfo⟩ := find_of_has h
  rw [Attempt.run, hinfo, ← RunSettings.maxAttempts_eq]

private theorem attempt_ends_iff (h : e.registry.has c.driver = true)
    {log : List (Exchange AttemptRequest AttemptRequest.Answer)} {v : Verdict} :
    Process.Ends (Attempt.run e.registry e.settings c) log v ↔
      ∃ answers, v = verdictOf e c answers ∧ log = exchanges e.settings c answers v.attempts := by
  have htrace (answers : Nat → Option Outcome) :
      Process.trace (answering answers) (Attempt.run e.registry e.settings c) 0 =
        exchanges e.settings c answers (verdictOf e c answers).attempts := by
    rw [verdictOf, attempt_eq h]
    exact exchanges_append_trace e.settings.attemptLimit 0 ""
  constructor
  · intro hends
    obtain ⟨answers, rfl, rfl⟩ := exists_answers_of_ends hends 0
    exact ⟨answers, rfl, htrace answers⟩
  · rintro ⟨answers, rfl, rfl⟩
    rw [← htrace answers]
    exact Process.ends_trace (answering answers) (Attempt.run e.registry e.settings c) 0

private theorem verdictOf_of_success (h : e.registry.has c.driver = true) {k : Nat}
    (hk : k < e.settings.attemptLimit) (hbefore : ∀ j < k, ¬ Succeeds (answers j)) {o : Outcome}
    (hanswer : answers k = some o) (ho : o.success = true) :
    verdictOf e c answers = ⟨k + 1, .ok o.effectiveOutput⟩ := by
  rw [verdictOf, attempt_eq h]
  apply run_repeatCalls_of_success (Nat.zero_le k) (by omega) _ hanswer ho
  intro j _ hj
  exact hbefore j hj

private theorem verdictOf_of_failures (h : e.registry.has c.driver = true)
    (hall : ∀ j < e.settings.attemptLimit, ¬ Succeeds (answers j)) :
    verdictOf e c answers = ⟨e.settings.attemptLimit,
      .error (failureText e.settings.stepTimeoutSecs
        (answers (e.settings.attemptLimit - 1)))⟩ := by
  have hfail : ∀ j, 0 ≤ j → j < 0 + e.settings.attemptLimit → ¬ Succeeds (answers j) := by
    intro j _ hj
    exact hall j (by omega)
  rw [verdictOf, attempt_eq h, run_repeatCalls_of_failures e.settings.attemptLimit_pos hfail]
  simp only [Nat.zero_add]

private theorem attemptedRecord_retried (h : e.registry.has c.driver = true)
    (answers : Nat → Option Outcome) (step : Step) (now : Time.Instant) :
    (attemptedRecord step (verdictOf e c answers) now).Retried e.settings answers := by
  constructor
  case completed =>
    intro k hk hbefore o hanswer ho
    rw [verdictOf_of_success h hk hbefore hanswer ho]
    exact ⟨rfl, rfl, rfl, rfl⟩
  case failed =>
    intro hall
    rw [verdictOf_of_failures h hall]
    exact ⟨rfl, rfl, rfl, rfl⟩

/-- In a run every record that was not skipped is that of a call with the answers that it got. -/
theorem exists_retried {w : Workflow} {id : Id} {log : List Event} {r : RunResult}
    (h : Ends e (e.execute w id) log (.ok r)) {rec : StepRecord} (hrec : rec ∈ r.steps)
    (hstatus : rec.status ≠ .skipped) (hhas : e.registry.has rec.driver = true) :
    ∃ c answers, c.driver = rec.driver ∧ c.operation = rec.operation ∧
      rec.Retried e.settings answers ∧ ∀ k < rec.attempts, .called c k (answers k) ∈ log := by
  have hvalid : w.validation.isValid = true := by
    by_contra hne
    have hexec : e.execute w id = .done (.error ⟨w.id, w.validation⟩) := by
      simp [Engine.execute, Workflow.ensureValid, hne]
    rw [hexec] at h
    have heq := h.eq_of_done.2
    simp at heq
  obtain ⟨started, finished, left, s, hr, hs, -⟩ := Stage.of_ends hvalid h
  obtain rfl := Except.ok.inj hr
  obtain ⟨⟨i, rec⟩, hp, rfl⟩ := List.mem_map.mp (List.mem_reverse.mp hrec)
  rcases mem_finish.mp hp with hold | ⟨step, -, hskip⟩
  · obtain ⟨-, past, -, step, -, -, hready, horigin⟩ := hs.exists_origin _ hold
    simp only at horigin
    cases horigin with
    | skipped => exact absurd rfl hstatus
    | @attempted c answers hprep hcalls =>
      obtain ⟨-, hdriver, hoperation, -⟩ := prepare_ok hready hprep
      have hhas' : e.registry.has c.driver = true := by
        rw [hdriver]
        exact hhas
      exact ⟨c, answers, hdriver, hoperation, attemptedRecord_retried hhas' answers step started,
        hcalls⟩
  · simp only at hskip
    exact absurd (by rw [hskip]; rfl) hstatus

private theorem fits_words (settings : RunSettings) {made : Nat}
    (h : made < settings.attemptLimit) :
    made + 1 < 2 ^ 32 ∧ 2 ^ min (made - 1) 16 < 2 ^ 64 ∧ settings.pauseAfter made < 2 ^ 64 := by
  have hlimit : settings.attemptLimit ≤ 2 ^ 32 - 1 := Nat.min_le_right _ _
  have hpause : settings.pauseAfter made ≤ 2 ^ 64 - 1 := Nat.min_le_right _ _
  have hexp : min (made - 1) 16 < 64 := by omega
  have hfactor : 2 ^ min (made - 1) 16 < 2 ^ 64 := Nat.pow_lt_pow_right (by omega) hexp
  exact ⟨by omega, hfactor, by omega⟩

end Run

/-- The attempts at a call of a registered driver end in one way for each sequence of answers: they
ask for a call each with a pause before every one but the first, and the record made of them is that
of the first success or else of the last failure. So are the records of a run. Neither the count of
the attempts nor the pause between two of them, nor the factor of the pause, outgrows its word. -/
theorem Engine.attempts_retried (e : Engine) :
    (∀ c, e.registry.has c.driver = true →
      (∀ log v, Process.Ends (Attempt.run e.registry e.settings c) log v ↔
        ∃ answers, v = Run.verdictOf e c answers ∧
          log = Attempt.exchanges e.settings c answers v.attempts) ∧
      ∀ answers step now,
        (Run.attemptedRecord step (Run.verdictOf e c answers) now).Retried e.settings answers) ∧
    (∀ w id log r, Run.Ends e (e.execute w id) log (.ok r) → ∀ rec ∈ r.steps,
      rec.status ≠ .skipped → e.registry.has rec.driver = true →
        ∃ c answers, c.driver = rec.driver ∧ c.operation = rec.operation ∧
          rec.Retried e.settings answers ∧ ∀ k < rec.attempts, .called c k (answers k) ∈ log) ∧
    ∀ made < e.settings.attemptLimit, made + 1 < 2 ^ 32 ∧ 2 ^ min (made - 1) 16 < 2 ^ 64 ∧
      e.settings.pauseAfter made < 2 ^ 64 := by
  refine ⟨fun c h => ⟨fun log v => Run.attempt_ends_iff h, ?_⟩, ?_, ?_⟩
  · intro answers step now
    exact Run.attemptedRecord_retried h answers step now
  · intro w id log r h rec hrec hstatus hhas
    exact Run.exists_retried h hrec hstatus hhas
  · intro made h
    exact Run.fits_words e.settings h

/-- A driver that lets the first call pass, refuses the second and carries out the third. -/
def Run.thirdTime : Nat → Option Outcome
  | 0 => none
  | 1 => some (.failed "busy")
  | _ => some (.ok .null)

private theorem Run.thirdTime_fails {j : Nat} (hj : j < 2) :
    ¬ Attempt.Succeeds (Run.thirdTime j) := by
  rintro ⟨o, ho, hsuccess⟩
  match j with
  | 0 => simp [Run.thirdTime] at ho
  | 1 =>
    obtain rfl := Option.some.inj ho
    simp [Outcome.failed] at hsuccess

theorem Engine.attempts_retried_thirdTime :
    let e : Engine := ⟨Run.mailer.registry, { maxRetries := 2 }⟩
    let c : StepCall := ⟨0, "mail", "fetch", [], []⟩
    let w := Run.mailer.compile .zero ⟨0, 0⟩ Run.fetchThenSend []
    (e.registry.has c.driver = true ∧
      Process.Ends (Attempt.run e.registry e.settings c)
        [⟨.call c 30, none⟩, ⟨.pause 250, ()⟩, ⟨.call c 30, some (.failed "busy")⟩,
          ⟨.pause 500, ()⟩, ⟨.call c 30, some (.ok .null)⟩] ⟨3, .ok .null⟩) ∧
    (∀ step now, (Run.attemptedRecord step (Run.verdictOf e c Run.thirdTime) now).attempts = 3) ∧
    (∃ log r, Run.Ends e (e.execute w .zero) log (.ok r) ∧ ∀ rec ∈ r.steps,
      rec.status ≠ .skipped → e.registry.has rec.driver = true → ∃ c answers,
        rec.Retried e.settings answers ∧ ∀ k < rec.attempts, .called c k (answers k) ∈ log) ∧
    e.settings.attemptLimit = 3 ∧ e.settings.pauseAfter 2 < 2 ^ 64 := by
  intro e c w
  have hhas : e.registry.has c.driver = true := by decide
  have hlimit : e.settings.attemptLimit = 3 := by decide
  have hv : Run.verdictOf e c Run.thirdTime = ⟨3, .ok .null⟩ :=
    Run.verdictOf_of_success hhas (k := 2) (by omega) (fun j => Run.thirdTime_fails) rfl rfl
  have hfirst : e.settings.pauseAfter 1 = 250 := by decide
  have hsecond : e.settings.pauseAfter 2 = 500 := by decide
  obtain ⟨hcall, hrun, hfits⟩ := Engine.attempts_retried e
  obtain ⟨hends, hrecord⟩ := hcall c hhas
  refine ⟨⟨hhas, (hends _ _).mpr ⟨Run.thirdTime, hv.symm, ?_⟩⟩, fun step now => ?_, ?_, hlimit,
    (hfits 2 (by omega)).2.2⟩
  · simp [Attempt.exchanges, hfirst, hsecond, Run.thirdTime, e]
  · have h := hrecord Run.thirdTime step now
    exact (h.completed 2 (by omega) (fun j => Run.thirdTime_fails) (.ok .null) rfl rfl).2.1
  · have hvalid : w.validation.isValid = true := by decide +kernel
    obtain ⟨log, x, hc, -⟩ :=
      Run.Point.reaches_end e (fun _ => Run.thirdTime) (.asking (e.execute w .zero))
    obtain ⟨started, finished, left, s, rfl, -⟩ := Run.Stage.of_ends hvalid hc
    refine ⟨log, _, hc, fun rec hrec hstatus hhas => ?_⟩
    obtain ⟨c, answers, -, -, hretried, hcalls⟩ := hrun w .zero log _ hc rec hrec hstatus hhas
    exact ⟨c, answers, hretried, hcalls⟩

end Automation
