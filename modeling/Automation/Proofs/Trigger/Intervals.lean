import Automation.Trigger.Basic

/-!
# When an interval is over

A trigger with an interval is due when the interval has passed since it was last fired, counted in
nanoseconds without any bound. That the end of the interval may lie beyond all instants makes no
difference, since no instant comes after it. A leap second is the one thing that is not counted:
fired within it, a trigger counts as fired in the second before, and until it is over no more than
that second has passed.
-/

namespace Automation

open Json

namespace Time.Instant

/-- The instant lies in the supported years; a leap second counts on past the billion. -/
structure Supported (t : Instant) : Prop where
  first : minSeconds ≤ t.seconds
  last : t.seconds ≤ maxSeconds
  nanos : t.nanos < 2 * nanosPerSecond

/-- The nanoseconds since 1970, those of a leap second among them. -/
def countNanos (t : Instant) : Int := t.seconds * nanosPerSecond + t.nanos

/-- The nanoseconds since 1970 that have passed; those of a leap second pass when it is over. -/
def passedNanos (t : Instant) : Int := t.seconds * nanosPerSecond + min t.nanos (nanosPerSecond - 1)

private theorem le_trans {a b c : Instant} (hab : a.le b = true) (hbc : b.le c = true) :
    a.le c = true := by
  simp only [le, Bool.or_eq_true, Bool.and_eq_true, decide_eq_true_eq, beq_iff_eq] at *
  omega

private theorem ofNanos_le_iff (n : Int) (t : Instant) :
    (ofNanos n).le t = true ↔ n ≤ t.passedNanos := by
  simp only [le, Bool.or_eq_true, Bool.and_eq_true, decide_eq_true_eq, beq_iff_eq]
  simp only [ofNanos, passedNanos, nanosPerSecond]
  omega

private theorem Supported.le_toNanos {t : Instant} (h : t.Supported) :
    minSeconds * nanosPerSecond ≤ t.toNanos := by
  have hfirst := h.first
  simp only [toNanos, nanosPerSecond]
  omega

private theorem Supported.passedNanos_lt {t : Instant} (h : t.Supported) :
    t.passedNanos < (maxSeconds + 1) * nanosPerSecond := by
  have hlast := h.last
  simp only [passedNanos, nanosPerSecond]
  omega

private theorem Supported.passedNanos_sub_toNanos_lt {t : Instant} (h : t.Supported) :
    t.passedNanos - t.toNanos < nanosPerSecond := by
  have hnanos := h.nanos
  simp only [passedNanos, toNanos, nanosPerSecond] at *
  omega

private theorem Supported.addNanos?_eq {t : Instant} (h : t.Supported) (n : Nat) :
    t.addNanos? n =
      if t.toNanos + n < (maxSeconds + 1) * nanosPerSecond then some (ofNanos (t.toNanos + n))
      else none := by
  have hfirst := h.le_toNanos
  have hmin : minSeconds ≤ (t.toNanos + n) / nanosPerSecond := by
    simp only [nanosPerSecond] at *
    omega
  have hmax : (t.toNanos + n) / nanosPerSecond ≤ maxSeconds ↔
      t.toNanos + n < (maxSeconds + 1) * nanosPerSecond := by
    simp only [nanosPerSecond] at *
    omega
  simp only [addNanos?, inRange?, ofNanos, Bool.and_eq_true, decide_eq_true_eq, hmin, hmax,
    true_and]

/-- So many nanoseconds later has come when so many have passed, be it within the supported years or
beyond them. -/
theorem Supported.exists_le_iff {last now : Instant} (hl : last.Supported) (hn : now.Supported)
    (n : Nat) : (∃ due ∈ last.addNanos? n, due.le now = true) ↔
      (n : Int) ≤ now.passedNanos - last.toNanos := by
  rw [hl.addNanos?_eq n]
  by_cases h : last.toNanos + n < (maxSeconds + 1) * nanosPerSecond
  · rw [if_pos h]
    simp only [Option.mem_some_iff, exists_eq_left', ofNanos_le_iff]
    omega
  · have hnow := hn.passedNanos_lt
    rw [if_neg h]
    simp only [Option.mem_def, reduceCtorEq, false_and, exists_false, false_iff]
    omega

end Time.Instant

namespace Schedule

private theorem positive?_pos {v : Value} {n : Nat} (h : positive? v = some n) : 1 ≤ n := by
  unfold positive? at h
  split at h
  · exact of_decide_eq_true (Option.filter_eq_some_iff.mp h).2
  · exact of_decide_eq_true (Option.filter_eq_some_iff.mp h).2
  · simp at h

private theorem interval_of_ofConfig {config : Value} {n : Nat} {unit : IntervalUnit}
    (h : ofConfig config = .ok (.interval n unit)) : 1 ≤ n ∧ n * unit.seconds ≤ maxSeconds := by
  unfold ofConfig at h
  split at h
  · split at h <;> simp at h
  · simp at h
  · split at h
    · simp at h
    · split at h
      · simp at h
      · next every hpos =>
        cases hunit : unitOf config with
        | error e => simp [hunit, bind, Except.bind] at h
        | ok unit' =>
          simp only [hunit, bind, Except.bind, ofInterval] at h
          split at h
          · next hle =>
            simp only [Except.ok.injEq, interval.injEq] at h
            obtain ⟨rfl, rfl⟩ := h
            exact ⟨positive?_pos hpos, hle⟩
          · simp at h

end Schedule

namespace IntervalUnit

private theorem one_lt_seconds (unit : IntervalUnit) : 1 < unit.seconds := by
  cases unit <;> decide

end IntervalUnit

namespace Trigger

variable {t : Trigger} {n : Nat} {unit : IntervalUnit}

private theorem checkDue_of_paused (h : t.status = .paused) (now : Time.Instant) :
    t.checkDue now = .ok false := by
  simp [checkDue, isActive, h]

private theorem checkDue_of_type (h : t.type ≠ .timeBased) (now : Time.Instant) :
    t.checkDue now = .ok false := by
  have hschedule : t.schedule = .ok none := by
    unfold schedule
    split
    · next htype => exact absurd htype h
    · rfl
  unfold checkDue
  rw [hschedule]
  split <;> rfl

private theorem checkDue_of_interval (htype : t.type = .timeBased)
    (hconfig : Schedule.ofConfig t.config = .ok (.interval n unit)) (hactive : t.status = .active)
    (now : Time.Instant) : ∃ due, t.checkDue now = .ok due ∧ (due = true ↔
      ∀ last ∈ t.lastTriggered, ∃ next ∈ (Schedule.interval n unit).nextDue? last,
        next.le now = true) := by
  have hschedule : t.schedule = .ok (some (.interval n unit)) := by
    simp only [schedule, htype, hconfig]
  unfold checkDue
  rw [hschedule]
  simp only [isActive, hactive, decide_true, Bool.not_true, Bool.false_eq_true, if_false, bind,
    Except.bind]
  cases t.lastTriggered with
  | none => exact ⟨true, rfl, by simp⟩
  | some last =>
    dsimp only
    cases hnext : (Schedule.interval n unit).nextDue? last with
    | none => exact ⟨false, rfl, by simp [hnext]⟩
    | some next => exact ⟨next.le now, rfl, by simp [hnext]⟩

private theorem checkDue_mono (htype : t.type = .timeBased)
    (hconfig : Schedule.ofConfig t.config = .ok (.interval n unit)) {now later : Time.Instant}
    (hle : now.le later = true) (h : t.checkDue now = .ok true) : t.checkDue later = .ok true := by
  have hactive : t.status = .active := by
    cases hstatus : t.status with
    | active => rfl
    | paused => simp [checkDue_of_paused hstatus now] at h
  obtain ⟨due, heq, hdue⟩ := checkDue_of_interval htype hconfig hactive now
  obtain ⟨due', heq', hdue'⟩ := checkDue_of_interval htype hconfig hactive later
  rw [heq, Except.ok.injEq] at h
  rw [heq', Except.ok.injEq, hdue']
  intro last hlast
  obtain ⟨next, hnext, hnow⟩ := hdue.mp h last hlast
  exact ⟨next, hnext, Time.Instant.le_trans hnow hle⟩

/-- An active trigger with an interval is due just if it was never fired or the interval, in
nanoseconds, has passed since; how far the instants lie apart is computed without bounds, and there
is an answer whatever they are. It stays due, it is not due when it was just fired, and a trigger
that is paused or does not fire by time never is. -/
theorem due_exactly (t : Trigger) :
    (∀ n unit, t.type = .timeBased → Schedule.ofConfig t.config = .ok (.interval n unit) →
      (∀ last ∈ t.lastTriggered, last.Supported) →
        (t.status = .active → ∀ now : Time.Instant, now.Supported →
          ∃ due, t.checkDue now = .ok due ∧ (due = true ↔ ∀ last ∈ t.lastTriggered,
            ((n * unit.seconds * Time.nanosPerSecond : Nat) : Int) ≤
              now.passedNanos - last.toNanos)) ∧
        (∀ now later : Time.Instant, now.le later = true → t.checkDue now = .ok true →
          t.checkDue later = .ok true) ∧
        (∀ last ∈ t.lastTriggered, t.checkDue last = .ok false) ∧
        ((n * unit.seconds * 1000 : Nat) : Int) ≤ Int64.maxValue.toInt) ∧
    (t.status = .paused ∨ t.type ≠ .timeBased → ∀ now, t.checkDue now = .ok false) := by
  constructor
  · intro n unit htype hconfig hlast
    obtain ⟨hpos, hmax⟩ := Schedule.interval_of_ofConfig hconfig
    have hexact : t.status = .active → ∀ now : Time.Instant, now.Supported →
        ∃ due, t.checkDue now = .ok due ∧ (due = true ↔ ∀ last ∈ t.lastTriggered,
          ((n * unit.seconds * Time.nanosPerSecond : Nat) : Int) ≤
            now.passedNanos - last.toNanos) := by
      intro hactive now hnow
      obtain ⟨due, heq, hdue⟩ := checkDue_of_interval htype hconfig hactive now
      refine ⟨due, heq, hdue.trans (forall₂_congr fun last hmem => ?_)⟩
      exact (hlast last hmem).exists_le_iff hnow (n * unit.seconds * Time.nanosPerSecond)
    refine ⟨hexact, fun now later => checkDue_mono htype hconfig, fun last hmem => ?_, ?_⟩
    · cases hstatus : t.status with
      | paused => exact checkDue_of_paused hstatus last
      | active =>
        obtain ⟨due, heq, hdue⟩ := hexact hstatus last (hlast last hmem)
        have hnot : due ≠ true := by
          intro htrue
          have hpassed := hdue.mp htrue last hmem
          have hless := (hlast last hmem).passedNanos_sub_toNanos_lt
          have hunit := unit.one_lt_seconds
          have hsecond : 1 ≤ n * unit.seconds := Nat.mul_pos hpos (by omega)
          simp only [Time.nanosPerSecond] at *
          omega
        rw [heq, Bool.eq_false_iff.mpr hnot]
    · have hlimit : ((Schedule.maxSeconds * 1000 : Nat) : Int) ≤ Int64.maxValue.toInt := by decide
      have hproduct := Nat.mul_le_mul_right 1000 hmax
      exact Int.le_trans (Int.ofNat_le.mpr hproduct) hlimit
  · rintro (h | h) now
    · exact checkDue_of_paused h now
    · exact checkDue_of_type h now

/-- Every minute, and last at ten o'clock. -/
def everyMinute : Trigger where
  id := .zero
  agentId := "agent"
  workflowId := .zero
  type := .timeBased
  config := .record [("interval", .nat 1)]
  lastTriggered := some ⟨1772445600, 0⟩
  createdAt := ⟨0, 0⟩

theorem due_exactly_everyMinute :
    everyMinute.type = .timeBased ∧
      Schedule.ofConfig everyMinute.config = .ok (.interval 1 .minutes) ∧
      (⟨1772445600, 0⟩ : Time.Instant).Supported ∧ everyMinute.status = .active ∧
      everyMinute.checkDue ⟨1772445660, 0⟩ = .ok true ∧
      everyMinute.checkDue ⟨1772445659, 999999999⟩ = .ok false ∧
      everyMinute.checkDue ⟨Time.Instant.maxSeconds, 0⟩ = .ok true ∧
      everyMinute.checkDue ⟨1772445600, 0⟩ = .ok false ∧
      ∀ now, ({ everyMinute with status := .paused } : Trigger).checkDue now = .ok false := by
  have hconfig : Schedule.ofConfig everyMinute.config = .ok (.interval 1 .minutes) := rfl
  have hlast : (⟨1772445600, 0⟩ : Time.Instant).Supported := ⟨by decide, by decide, by decide⟩
  have hall : ∀ last ∈ everyMinute.lastTriggered, last.Supported := by
    intro last h
    obtain rfl := Option.some.inj h
    exact hlast
  obtain ⟨hexact, hmono, hfired, -⟩ := (due_exactly everyMinute).1 1 .minutes rfl hconfig hall
  have hminute : everyMinute.checkDue ⟨1772445660, 0⟩ = .ok true := by
    obtain ⟨due, heq, hdue⟩ := hexact rfl ⟨1772445660, 0⟩ ⟨by decide, by decide, by decide⟩
    rw [heq, hdue.mpr]
    intro last h
    obtain rfl := Option.some.inj h
    decide
  have hbefore : everyMinute.checkDue ⟨1772445659, 999999999⟩ = .ok false := by
    obtain ⟨due, heq, hdue⟩ := hexact rfl ⟨1772445659, 999999999⟩ ⟨by decide, by decide, by decide⟩
    rw [heq, Bool.eq_false_iff.mpr fun h => absurd (hdue.mp h _ rfl) (by decide)]
  exact ⟨rfl, hconfig, hlast, rfl, hminute, hbefore, hmono _ _ (by decide) hminute,
    hfired _ rfl, fun now => (due_exactly { everyMinute with status := .paused }).2 (.inl rfl) now⟩

/-- At the leap second of a minute the sixty seconds are counted, but have not passed. -/
theorem leap_second_not_due :
    let last : Time.Instant := ⟨1772445600, 0⟩
    let now : Time.Instant := ⟨1772445659, 1000000000⟩
    everyMinute.type = .timeBased ∧
      Schedule.ofConfig everyMinute.config = .ok (.interval 1 .minutes) ∧
      everyMinute.status = .active ∧ everyMinute.lastTriggered = some last ∧
      last.Supported ∧ now.Supported ∧
      ¬ (everyMinute.checkDue now = .ok true ↔
        ((1 * IntervalUnit.minutes.seconds * Time.nanosPerSecond : Nat) : Int) ≤
          now.countNanos - last.countNanos) := by
  refine ⟨rfl, rfl, rfl, rfl, ⟨by decide, by decide, by decide⟩,
    ⟨by decide, by decide, by decide⟩, ?_⟩
  have hnot : everyMinute.checkDue ⟨1772445659, 1000000000⟩ = .ok false := rfl
  intro h
  have hdue := h.mpr (by decide)
  rw [hnot] at hdue
  simp at hdue

end Trigger

end Automation
