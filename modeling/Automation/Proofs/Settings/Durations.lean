import Automation.Proofs.Decimal.Rounding
import Automation.Proofs.Json.Decoding
import Automation.Proofs.Text
import Automation.Settings.Environment

/-!
# Times told by settings

The whole numbers of settings that were read fit 64 bits, whether they come from the text or from
the environment. All times that are told by one of them can be represented. The idle time is told by
a binary64 number of hours, and the wait after a failed pass by two whole numbers. Both can be too
long to be represented although the settings are accepted.
-/

namespace Automation

/-- A time, in nanoseconds, that can be represented: less than `2^64` seconds. -/
def Time.IsDuration (nanos : Nat) : Prop := nanos < UInt64.size * Time.nanosPerSecond

open Decimal Json Time Float.Model

namespace Settings

/-- The whole numbers that tell times fit 64 bits. -/
structure Sized (s : Settings) : Prop where
  interval : s.scheduler.intervalSecs < UInt64.size
  backoff : s.scheduler.backoffSecs < UInt64.size
  sweep : s.instances.sweepIntervalSecs < UInt64.size
  timeout : s.execution.stepTimeoutSecs < UInt64.size

/-- Settings that have passed the check. -/
structure Accepted (s : Settings) : Prop where
  sized : s.Sized
  valid : s.validate = .ok ()

/-- All times that the settings tell can be represented. -/
structure Timed (s : Settings) : Prop where
  /-- The instances can be created. -/
  idle : ∀ now, (Instances.ofSettings? s.instances now).isSome
  sweep : IsDuration (s.instances.sweepIntervalSecs * nanosPerSecond)
  timeout : IsDuration (s.execution.stepTimeoutSecs * nanosPerSecond)
  retry : ∀ attempt, IsDuration (s.execution.retryDelay attempt * 1000000)
  wait : ∀ failed, (s.scheduler.waitMs? failed).isSome

/-! ## Settings that were read -/

private theorem lt_of_orElse {r : Record} {name : String} {default n : Nat}
    (hd : default < UInt64.size)
    (h : r.orElse name (Decoder.natBits 64) default = some n) : n < UInt64.size := by
  rcases Record.of_orElse h with rfl | ⟨source, hsource⟩
  · exact hd
  · exact Decoder.lt_of_natBits hsource

private theorem exists_of_bind_eq_ok {α β ε : Type} {x : Except ε α} {f : α → Except ε β} {b : β}
    (h : (x >>= f) = .ok b) : ∃ a, x = .ok a ∧ f a = .ok b := by
  cases x with
  | error e => cases h
  | ok a => exact ⟨a, rfl, h⟩

private theorem exists_of_map_eq_ok {α β ε : Type} {x : Except ε α} {f : α → β} {b : β}
    (h : x.map f = .ok b) : ∃ a, x = .ok a ∧ f a = b := by
  cases x with
  | error e => cases h
  | ok a => exact ⟨a, rfl, Except.ok.inj h⟩

private theorem poll_of_decode {depth : Nat} {source : Source} {s : PollSettings}
    (h : PollSettings.decode depth source = some s) :
    s.intervalSecs < UInt64.size ∧ s.backoffSecs < UInt64.size := by
  obtain ⟨r, hr⟩ := Decoder.exists_of_record h
  simp only [Option.bind_eq_bind, Option.bind_eq_some_iff, Option.pure_def, Option.some.injEq] at hr
  obtain ⟨_, hinterval, _, hbackoff, rfl⟩ := hr
  exact ⟨lt_of_orElse (by decide) hinterval, lt_of_orElse (by decide) hbackoff⟩

private theorem sweep_of_decode {depth : Nat} {source : Source} {s : InstanceSettings}
    (h : InstanceSettings.decode depth source = some s) : s.sweepIntervalSecs < UInt64.size := by
  obtain ⟨r, hr⟩ := Decoder.exists_of_record h
  simp only [Option.bind_eq_bind, Option.bind_eq_some_iff, Option.pure_def, Option.some.injEq] at hr
  obtain ⟨_, -, _, hsweep, _, -, _, -, rfl⟩ := hr
  exact lt_of_orElse (by decide) hsweep

private theorem timeout_of_decode {depth : Nat} {source : Source} {s : RunSettings}
    (h : RunSettings.decode depth source = some s) : s.stepTimeoutSecs < UInt64.size := by
  obtain ⟨r, hr⟩ := Decoder.exists_of_record h
  simp only [Option.bind_eq_bind, Option.bind_eq_some_iff, Option.pure_def, Option.some.injEq] at hr
  obtain ⟨_, htimeout, _, -, _, -, _, -, _, -, rfl⟩ := hr
  exact lt_of_orElse (by decide) htimeout

private theorem sized_standard :
    ({} : Settings).Sized := ⟨by decide, by decide, by decide, by decide⟩

private theorem sized_of_decode {depth : Nat} {source : Source} {s : Settings}
    (h : decode depth source = some s) : s.Sized := by
  obtain ⟨r, hr⟩ := Decoder.exists_of_record h
  simp only [Option.bind_eq_bind, Option.bind_eq_some_iff, Option.pure_def, Option.some.injEq] at hr
  obtain ⟨scheduler, hscheduler, instances, hinstances, execution, hexecution, _, -, _, -, _, -,
    _, -, _, -, rfl⟩ := hr
  have hpoll : scheduler.intervalSecs < UInt64.size ∧ scheduler.backoffSecs < UInt64.size := by
    rcases Record.of_orElse hscheduler with rfl | ⟨_, hread⟩
    · exact ⟨sized_standard.interval, sized_standard.backoff⟩
    · exact poll_of_decode hread
  have hsweep : instances.sweepIntervalSecs < UInt64.size := by
    rcases Record.of_orElse hinstances with rfl | ⟨_, hread⟩
    · exact sized_standard.sweep
    · exact sweep_of_decode hread
  have htimeout : execution.stepTimeoutSecs < UInt64.size := by
    rcases Record.of_orElse hexecution with rfl | ⟨_, hread⟩
    · exact sized_standard.timeout
    · exact timeout_of_decode hread
  exact ⟨hpoll.1, hpoll.2, hsweep, htimeout⟩

private theorem sized_of_ofToml {text : String} {s : Settings} (h : ofToml text = .ok s) :
    s.Sized := by
  unfold ofToml at h
  split at h
  · next found hfound =>
    cases h
    obtain ⟨source, -, hdecode⟩ := Option.bind_eq_some_iff.mp hfound
    exact sized_of_decode hdecode
  · cases h

private theorem Sized.of_override {s : Settings} (hs : s.Sized) :
    ∀ o ∈ overrides, ∀ value s', o.2 o.1 value s = .ok s' → s'.Sized := by
  simp only [overrides, List.forall_mem_cons]
  refine ⟨fun value s' h => ?interval, fun value s' h => ?_, fun value s' h => ?timeout,
    fun value s' h => ?_, fun value s' h => ?_, fun value s' h => ?_, fun value s' h => ?provider,
    fun value s' h => ?model, fun value s' h => ?database, fun value s' h => ?_,
    fun value s' h => ?_, by simp⟩
  case interval =>
    obtain ⟨n, hn, rfl⟩ := of_entry h
    exact ⟨Text.lt_of_nat? hn, hs.backoff, hs.sweep, hs.timeout⟩
  case timeout =>
    obtain ⟨n, hn, rfl⟩ := of_entry h
    exact ⟨hs.interval, hs.backoff, hs.sweep, Text.lt_of_nat? hn⟩
  case provider =>
    obtain ⟨p, rfl⟩ := of_provider h
    exact ⟨hs.interval, hs.backoff, hs.sweep, hs.timeout⟩
  case model | database =>
    cases h
    exact ⟨hs.interval, hs.backoff, hs.sweep, hs.timeout⟩
  all_goals
    obtain ⟨_, -, rfl⟩ := of_entry h
    exact ⟨hs.interval, hs.backoff, hs.sweep, hs.timeout⟩

private theorem Sized.of_applyEnvironment {lookup : String → Option String} {s s' : Settings}
    (hs : s.Sized) (h : s.applyEnvironment lookup = .ok s') : s'.Sized := by
  have hkeep := fun {s : Settings} (hs : s.Sized) => hs.of_override
  unfold applyEnvironment at h
  -- the variables are read one after the other, and each of them keeps the sizes
  generalize overrides = os at h hkeep
  induction os generalizing s with
  | nil =>
    cases h
    exact hs
  | cons o os ih =>
    rw [List.foldlM_cons] at h
    obtain ⟨t, ho, h⟩ := exists_of_bind_eq_ok h
    have ht : t.Sized := by
      dsimp only at ho
      split at ho
      · exact hkeep hs o List.mem_cons_self _ t ho
      · cases ho
        exact hs
    exact ih ht h fun hs o ho => hkeep hs o (List.mem_cons_of_mem _ ho)

private theorem accepted_of_load {text : Option String} {lookup : String → Option String}
    {s : Settings} (h : load text lookup = .ok s) : s.Accepted := by
  obtain ⟨base, hbase, h⟩ : ∃ base : Settings, base.Sized ∧
      (do let s ← base.applyEnvironment lookup
          s.validate
          return s) = Except.ok s := by
    cases text with
    | none => exact ⟨{}, sized_standard, h⟩
    | some t =>
      obtain ⟨base, hread, h⟩ := exists_of_bind_eq_ok h
      exact ⟨base, sized_of_ofToml hread, h⟩
  obtain ⟨t, henv, h⟩ := exists_of_bind_eq_ok h
  obtain ⟨_, hvalid, h⟩ := exists_of_bind_eq_ok h
  cases h
  exact ⟨hbase.of_applyEnvironment henv, hvalid⟩

/-! ## The idle time -/

private theorem hours_of_validate {s : Settings} (h : s.validate = .ok ()) :
    s.instances.idleTtlHours.isFinite = true ∧ s.instances.idleTtlHours > 0.0 := by
  unfold validate at h
  obtain ⟨_, -, h⟩ := exists_of_bind_eq_ok h
  obtain ⟨_, hhours, -⟩ := exists_of_bind_eq_ok h
  dsimp only at hhours
  split at hhours
  · cases hhours
  · next hgood => simpa using hgood

/-- The hours in seconds have an exponent of at most 11 just if the hours are fewer than
5124095576030431, which are 16 seconds less than `2^64` and are rounded up. -/
theorem seconds_of_hours {m : Nat} {e : Int} (canonical : Canonical m e) (pos : 0 < m) :
    ∃ r e', ∃ hr : 0 < r,
      UnpackedFloat.mul .binary64 (.finite .positive m e pos) (3600.0 : Float).toModel.unpack =
        .finite .positive r e' hr ∧
      Canonical r e' ∧ (e' ≤ 11 ↔ e < 0 ∨ e = 0 ∧ m < 5124095576030431) := by
  obtain ⟨hdigits, hlowest, hfull⟩ := canonical
  -- the significand of 3600 is 3600 times `2^41`
  have hunit : (3600.0 : Float).toModel.unpack =
      .finite .positive 7916483719987200 (-41) (by decide) := rfl
  have hne : m * 7916483719987200 ≠ 0 := by omega
  have hlog (n : Nat) := Nat.le_log2 (n := m * 7916483719987200) (k := n) hne
  have h52 := hlog 52
  have h104 := hlog 104
  have h105 := hlog 105
  have h106 := hlog 106
  obtain ⟨k, hk⟩ : ∃ k : Nat,
      e + -41 + k = max ((m * 7916483719987200).log2 + (e + -41) - 52) (-1074) :=
    ⟨(max ((m * 7916483719987200).log2 + (e + -41) - 52) (-1074) - (e + -41)).toNat, by omega⟩
  obtain ⟨r, e', hr, hmul, hcanonical, hcase⟩ := roundWithAccuracy_exact hk hne (by omega)
  refine ⟨r, e', hr, hunit ▸ hmul, hcanonical, ?_⟩
  have hle := roundHalfEven_le (m * 7916483719987200) (2 ^ k)
  rcases lt_trichotomy e 0 with hneg | rfl | hpos
  · -- fewer than `2^52` hours: the product has 106 digits at most, and they are not all ones
    have hcarry : e + -41 + k = 11 →
        roundHalfEven (m * 7916483719987200) (2 ^ k) ≠ 2 ^ 53 := by
      intro htop
      obtain rfl : k = 53 := by omega
      omega
    omega
  · -- fewer than `2^53` hours: with 105 digits it depends on how the last 52 are rounded
    by_cases htop : k = 52
    · subst htop
      have hround : roundHalfEven (m * 7916483719987200) (2 ^ 52) < 2 ^ 53 ↔
          m < 5124095576030431 := by
        rw [roundHalfEven_lt_iff (by decide) (by decide)]
        omega
      omega
    · omega
  · omega

private theorem idleTtlNanos?_isSome_iff {s : InstanceSettings}
    (finite : s.idleTtlHours.isFinite = true) (pos : s.idleTtlHours > 0.0) :
    s.idleTtlNanos?.isSome ↔ s.idleTtlHours < 5124095576030431.0 := by
  obtain ⟨m, e, hm, hunpack, hcanonical⟩ := exists_canonical finite pos
  obtain ⟨r, e', hr, hmul, hrounded, hexp⟩ := seconds_of_hours hcanonical hm
  have hbound : (5124095576030431.0 : Float).toModel.unpack =
      .finite .positive 5124095576030431 0 (by decide) := rfl
  have hpacked : (s.idleTtlHours * 3600.0).toModel = .pack (.finite .positive r e' hr) := by
    rw [← hmul, ← hunpack]
    rfl
  have hsome : s.idleTtlNanos?.isSome ↔ e' ≤ 11 := by
    rw [InstanceSettings.idleTtlNanos?, if_pos pos]
    exact units?_filter_isSome_iff 9 hpacked hrounded
  rw [hsome, hexp, lt_iff_unpack, hunpack, hbound, finite_lt_iff]

/-! ## All times -/

private theorem waitMs?_isSome_iff {s : PollSettings} {failed : Bool} :
    (s.waitMs? failed).isSome ↔
      s.intervalSecs + (if failed then s.backoffSecs else 0) < UInt64.size := by
  simp only [PollSettings.waitMs?]
  split <;> simp [*]

private theorem isDuration_of_secs {n : Nat} (h : n < UInt64.size) :
    IsDuration (n * nanosPerSecond) :=
  Nat.mul_lt_mul_of_pos_right h (by decide)

private theorem retryDelay_isDuration (s : RunSettings) (attempt : Nat) :
    IsDuration (s.retryDelay attempt * 1000000) := by
  have hle : s.retryDelay attempt ≤ RunSettings.maxWord := Nat.min_le_right _ _
  have hmax : RunSettings.maxWord * 1000000 < UInt64.size * nanosPerSecond := by decide
  exact Nat.lt_of_le_of_lt (Nat.mul_le_mul_right 1000000 hle) hmax

private theorem ofSettings?_isSome (s : InstanceSettings) (now : Instant) :
    (Instances.ofSettings? s now).isSome = s.idleTtlNanos?.isSome := by
  cases h : s.idleTtlNanos? <;> simp [Instances.ofSettings?, h]

/-- All times that accepted settings tell can be represented just if the idle time is shorter than
5124095576030431 hours and the seconds to wait after a failed pass add up to less than `2^64`. -/
theorem accepted_timed_iff {s : Settings} (accepted : s.Accepted) :
    s.Timed ↔ s.instances.idleTtlHours < 5124095576030431.0 ∧
      s.scheduler.intervalSecs + s.scheduler.backoffSecs < UInt64.size := by
  obtain ⟨hsized, hvalid⟩ := accepted
  obtain ⟨hfinite, hpos⟩ := hours_of_validate hvalid
  have hidle := idleTtlNanos?_isSome_iff hfinite hpos
  constructor
  · intro h
    have hnow := h.idle ⟨0, 0⟩
    rw [ofSettings?_isSome, hidle] at hnow
    exact ⟨hnow, waitMs?_isSome_iff.mp (h.wait true)⟩
  · rintro ⟨hhours, hsum⟩
    refine ⟨fun now => ?_, isDuration_of_secs hsized.sweep, isDuration_of_secs hsized.timeout,
      retryDelay_isDuration s.execution, fun failed => ?_⟩
    · rw [ofSettings?_isSome, hidle]
      exact hhours
    · rw [waitMs?_isSome_iff]
      cases failed
      · exact hsized.interval
      · exact hsum

/-- The most hours and the most seconds below the bounds: with both all times can be represented. -/
theorem accepted_timed_longest :
    ∃ s, load (some "[instances]\nidle_ttl_hours = 5124095576030430.0\n") (fun name =>
        if name = "AUTOFLOW_POLL_INTERVAL_SECS" then some "18446744073709551555" else none) =
      .ok s ∧ s.instances.idleTtlHours = 5124095576030430.0 ∧
        s.scheduler.intervalSecs + s.scheduler.backoffSecs = 18446744073709551615 ∧ s.Timed := by
  have hread : (load (some "[instances]\nidle_ttl_hours = 5124095576030430.0\n") (fun name =>
      if name = "AUTOFLOW_POLL_INTERVAL_SECS" then some "18446744073709551555" else none)).map
      (fun s => (s.instances.idleTtlHours, s.scheduler.intervalSecs + s.scheduler.backoffSecs)) =
      .ok (5124095576030430.0, 18446744073709551615) := by
    decide +kernel
  obtain ⟨s, hs, hread⟩ := exists_of_map_eq_ok hread
  obtain ⟨hhours, hsum⟩ := Prod.mk.inj hread
  have htimed : s.Timed := by
    rw [accepted_timed_iff (accepted_of_load hs), hhours, hsum]
    exact ⟨by decide, by decide⟩
  exact ⟨s, hs, hhours, hsum, htimed⟩

/-- Neither `10^16` idle hours in the text nor the largest interval in the environment are refused,
but there is no such idle time and no such wait after a failed pass. -/
theorem accepted_not_timed :
    (∃ s, load (some "[instances]\nidle_ttl_hours = 1e16\n") (fun _ => none) = .ok s ∧
      ∀ now, Instances.ofSettings? s.instances now = none) ∧
    ∃ s, load none (fun name =>
        if name = "AUTOFLOW_POLL_INTERVAL_SECS" then some "18446744073709551615" else none) =
      .ok s ∧ s.scheduler.waitMs? true = none := by
  have hidle : (load (some "[instances]\nidle_ttl_hours = 1e16\n") (fun _ => none)).map
      (·.instances.idleTtlNanos?) = .ok none := by decide +kernel
  have hwait : (load none (fun name =>
      if name = "AUTOFLOW_POLL_INTERVAL_SECS" then some "18446744073709551615" else none)).map
      (·.scheduler.waitMs? true) = .ok none := by decide +kernel
  obtain ⟨s, hs, hnone⟩ := exists_of_map_eq_ok hidle
  obtain ⟨t, ht, hnever⟩ := exists_of_map_eq_ok hwait
  exact ⟨⟨s, hs, fun now => by simp [Instances.ofSettings?, hnone]⟩, t, ht, hnever⟩

end Settings

end Automation
