import Automation.Proofs.Conversation.Instances

/-!
# Copies of an instance

Two tables may hold copies of one instance under different numbers. If one of them has lost it, it
was idle for too long, so that an access finds the same in both tables, or makes the same.
-/

namespace Automation

/-- The same instance under another number. -/
def Instance.Copy (i j : Instance) : Prop := j = { i with serial := j.serial }

theorem Instance.Copy.eq {i j : Instance} (h : i.Copy j) : j = { i with serial := j.serial } := h

namespace Instances

variable {key k : InstanceKey} {t t' u u' : Instances} {i j : Instance} {clock now : Time.Instant}

/-- The settings on which the life of an instance depends are the same. -/
def SameSettings (t t' : Instances) : Prop :=
  t'.ttlMs = t.ttlMs ∧ t'.historyLimit = t.historyLimit

theorem SameSettings.refl (t : Instances) : t.SameSettings t := ⟨rfl, rfl⟩

theorem SameSettings.trans (h : t.SameSettings t') (h' : t'.SameSettings u) : t.SameSettings u :=
  ⟨h'.1.trans h.1, h'.2.trans h.2⟩

theorem SameSettings.symm (h : t.SameSettings t') : t'.SameSettings t := ⟨h.1.symm, h.2.symm⟩

theorem sameSettings_maybeSweep (t : Instances) (now : Time.Instant) :
    t.SameSettings (t.maybeSweep now) := ⟨(t.maybeSweep_next now).2.2, (t.maybeSweep_next now).2.1⟩

theorem sameSettings_getOrCreate (t : Instances) (key : InstanceKey) (initData : Json.Value)
    (now : Time.Instant) : t.SameSettings (t.getOrCreate key initData now).2 := by
  obtain ⟨hlimit, httl⟩ := (t.maybeSweep now).access_settings key initData now
  obtain ⟨httl', hlimit'⟩ := t.sameSettings_maybeSweep now
  exact ⟨httl.trans httl', hlimit.trans hlimit'⟩

theorem evicts_copy (hs : t.SameSettings t') (h : i.Copy j) (now : Time.Instant) :
    t'.evicts now j = t.evicts now i := by
  rw [h, evicts, evicts, hs.1]
  rfl

theorem evicts_mono (h : t.evicts clock i = true) (hclock : clock.toMillis ≤ now.toMillis) :
    t.evicts now i = true := by
  simp only [evicts, Instance.isExpired, Bool.and_eq_true, decide_eq_true_eq, Bool.not_eq_true']
    at h ⊢
  exact ⟨by omega, h.2⟩

/-- The instance of a key in the first table is in the second as well, and what is only in the
second may be removed. -/
structure Seen (key : InstanceKey) (clock : Time.Instant) (t t' : Instances) : Prop where
  settings : t.SameSettings t'
  live : ∀ i, t.get? key = some i → ∃ j, t'.get? key = some j ∧ i.Copy j
  idle : t.get? key = none → ∀ j, t'.get? key = some j → t'.evicts clock j = true

theorem Seen.refl (key : InstanceKey) (clock : Time.Instant) (t : Instances) : Seen key clock t t :=
  ⟨.refl t, fun i hi => ⟨i, hi, rfl⟩, fun hnone j hj => by rw [hnone] at hj; cases hj⟩

private theorem seen_of_copy (hs : t.SameSettings t') (hi : t.get? key = some i)
    (hj : t'.get? key = some j) (h : i.Copy j) : Seen key clock t t' := by
  refine ⟨hs, fun i' hi' => ?_, fun hnone => ?_⟩
  · rw [hi] at hi'
    cases hi'
    exact ⟨j, hj, h⟩
  · rw [hi] at hnone
    cases hnone

theorem Seen.filtered (h : Seen key clock t t') (hs : t.SameSettings u)
    (hclock : clock.toMillis ≤ now.toMillis) (hu : u.get? key = t.get? key ∨
      u.get? key = (t.get? key).filter fun i => !t.evicts now i) : Seen key now u t' := by
  constructor
  case settings => exact hs.symm.trans h.settings
  case live =>
    intro i hi
    rcases hu with heq | heq
    · exact h.live i (heq ▸ hi)
    · rw [heq] at hi
      exact h.live i (Option.filter_eq_some_iff.mp hi).1
  case idle =>
    intro hnone j hj
    cases hfound : t.get? key with
    | none => exact evicts_mono (h.idle hfound j hj) hclock
    | some i =>
      obtain ⟨j', hj', hcopy⟩ := h.live i hfound
      rw [hj] at hj'
      cases hj'
      rw [evicts_copy h.settings hcopy]
      rcases hu with heq | heq
      · rw [heq, hfound] at hnone
        cases hnone
      · simpa [heq, hfound, Option.filter] using hnone

private theorem fresh_copy (hs : t.SameSettings t') (key : InstanceKey) (initData : Json.Value)
    (now : Time.Instant) : (t.fresh key initData now).Copy (t'.fresh key initData now) := by
  simp only [Instance.Copy, fresh, create, hs.2]

/-- What an access finds in the one table it finds in the other. -/
theorem Seen.getOrCreate (h : Seen key clock t t') (ht : t.Sound) (ht' : t'.Sound)
    (hclock : clock.toMillis ≤ now.toMillis) (initData : Json.Value) :
    (t.getOrCreate key initData now).1.Copy (t'.getOrCreate key initData now).1 := by
  rw [ht.getOrCreate_fst, ht'.getOrCreate_fst]
  have hfresh := fresh_copy h.settings key initData now
  cases hi : t.get? key with
  | none =>
    have hnone : (t'.get? key).filter (fun j => !t'.evicts now j) = none := by
      rw [Option.filter_eq_none_iff]
      intro j hj
      simp [evicts_mono (h.idle hi j hj) hclock]
    rw [hnone]
    exact hfresh
  | some i =>
    obtain ⟨j, hj, hcopy⟩ := h.live i hi
    have hevicts := evicts_copy h.settings hcopy now
    rw [hj]
    cases he : t.evicts now i with
    | true => simpa [Option.filter, hevicts, he] using hfresh
    | false =>
      simp only [Option.filter, hevicts, he]
      exact congrArg (·.touch now) hcopy

/-! ## Changes -/

theorem Seen.accessed (h : Seen key clock t t') (ht : t.Sound) (ht' : t'.Sound)
    (hclock : clock.toMillis ≤ now.toMillis) (initData : Json.Value) :
    Seen key now (t.getOrCreate key initData now).2 (t'.getOrCreate key initData now).2 := by
  have hs := ((t.sameSettings_getOrCreate key initData now).symm.trans h.settings).trans
    (t'.sameSettings_getOrCreate key initData now)
  refine seen_of_copy hs ?_ ?_ (h.getOrCreate ht ht' hclock initData)
  · rw [ht.get?_getOrCreate, if_pos rfl]
  · rw [ht'.get?_getOrCreate, if_pos rfl]

theorem Seen.updated (h : Seen key clock t t') {f : Instance → Instance}
    (hkey : ∀ i, (f i).key = i.key) (hcopy : ∀ i j, i.Copy j → (f i).Copy (f j))
    (hi : t.get? key = some i) (hj : t'.get? key = some j) :
    Seen key now (t.update i.serial f) (t'.update j.serial f) := by
  obtain ⟨j', hj', hij⟩ := h.live i hi
  rw [hj] at hj'
  cases hj'
  refine seen_of_copy h.settings (i := f i) (j := f j) ?_ ?_ (hcopy i j hij)
  · rw [get?_update t i.serial hkey, hi, Option.map_some, if_pos rfl]
  · rw [get?_update t' j.serial hkey, hj, Option.map_some, if_pos rfl]

theorem Sound.get?_update_of_ne (h : t.Sound) {f : Instance → Instance}
    (hkey : ∀ i, (f i).key = i.key) (hi : t.get? k = some i) (hne : key ≠ k) :
    (t.update i.serial f).get? key = t.get? key := by
  rw [get?_update t i.serial hkey]
  cases hj : t.get? key with
  | none => rfl
  | some j => rw [Option.map_some, if_neg (h.serial_ne hj hi hne)]

end Instances

end Automation
