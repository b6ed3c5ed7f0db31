import Automation.Conversation.Instances
import Mathlib.Data.List.Nodup

/-!
# The table of instances

In a sound table there is at most one instance for a key and for a number, so that an operation on
one instance leaves the others alone. The lemmas say what stands under each key after an operation:
an access keeps a busy instance and every conversation that it does not drop for being idle.
-/

namespace Automation

open Json

namespace Instance

/-- The same instance, but for the time of the last access. -/
def Same (i j : Instance) : Prop := j = { i with lastAccessed := j.lastAccessed }

private theorem Same.refl (i : Instance) : i.Same i := rfl

private theorem same_touch (i : Instance) (now : Time.Instant) : i.Same (i.touch now) := rfl

end Instance

namespace Instances

variable {t : Instances} {k key : InstanceKey} {i j : Instance} {now : Time.Instant}
  {initData : Value}

/-- One instance for a key and for a number, all numbers given so far, and histories that keep as
many turns as the table says. -/
structure Sound (t : Instances) : Prop where
  keys : (t.live.map (·.key)).Nodup
  serials : (t.live.map (·.serial)).Nodup
  below : ∀ i ∈ t.live, i.serial < t.next
  limit : ∀ i ∈ t.live, i.conversation.history.limit = max t.historyLimit 1

theorem mem_of_get? (h : t.get? k = some i) : i ∈ t.live := List.mem_of_find?_eq_some h

theorem key_of_get? (h : t.get? k = some i) : i.key = k := by
  simpa using List.find?_some h

theorem Sound.get?_of_mem (h : t.Sound) (hi : i ∈ t.live) : t.get? i.key = some i := by
  cases hfound : t.get? i.key with
  | none =>
    have hnone := List.find?_eq_none.mp hfound i hi
    simp at hnone
  | some j =>
    rw [List.inj_on_of_nodup_map h.keys (mem_of_get? hfound) hi (key_of_get? hfound)]

private theorem Sound.get?_eq_some_iff (h : t.Sound) :
    t.get? k = some i ↔ i ∈ t.live ∧ i.key = k := by
  constructor
  · exact fun hi => ⟨mem_of_get? hi, key_of_get? hi⟩
  · rintro ⟨hi, rfl⟩
    exact h.get?_of_mem hi

theorem Sound.eq_of_serial (h : t.Sound) {k' : InstanceKey} (hi : t.get? k = some i)
    (hj : t.get? k' = some j) (heq : i.serial = j.serial) : i = j :=
  List.inj_on_of_nodup_map h.serials (mem_of_get? hi) (mem_of_get? hj) heq

theorem Sound.serial_ne (h : t.Sound) {k' : InstanceKey} (hi : t.get? k = some i)
    (hj : t.get? k' = some j) (hk : k ≠ k') : i.serial ≠ j.serial := by
  intro heq
  apply hk
  rw [← key_of_get? hi, ← key_of_get? hj, h.eq_of_serial hi hj heq]

/-! ## Sweeps -/

private theorem Sound.filter (h : t.Sound) (p : Instance → Bool) :
    Sound { t with live := t.live.filter p } := by
  have hsub : (t.live.filter p).Sublist t.live := List.filter_sublist
  exact ⟨h.keys.sublist (hsub.map _), h.serials.sublist (hsub.map _),
    fun i hi => h.below i (hsub.mem hi), fun i hi => h.limit i (hsub.mem hi)⟩

theorem Sound.sweep (h : t.Sound) (now : Time.Instant) : (t.sweep now).Sound := h.filter _

theorem Sound.get?_filter (h : t.Sound) (p : Instance → Bool) (k : InstanceKey) :
    get? { t with live := t.live.filter p } k = (t.get? k).filter p := by
  apply Option.ext
  intro i
  rw [(h.filter p).get?_eq_some_iff, Option.filter_eq_some_iff, h.get?_eq_some_iff, List.mem_filter]
  tauto

theorem Sound.get?_sweep (h : t.Sound) (now : Time.Instant) (k : InstanceKey) :
    (t.sweep now).get? k = (t.get? k).filter fun i => !t.evicts now i := h.get?_filter _ k

private theorem Sound.swept {lastSweep : Int} (h : t.Sound) : Sound { t with lastSweep } :=
  ⟨h.keys, h.serials, h.below, h.limit⟩

private theorem maybeSweep_cases (t : Instances) (now : Time.Instant) :
    t.maybeSweep now = t ∨
      t.maybeSweep now = ({ t with lastSweep := now.toMillis } : Instances).sweep now := by
  unfold maybeSweep
  split
  · exact .inl rfl
  · exact .inr rfl

theorem Sound.maybeSweep (h : t.Sound) (now : Time.Instant) : (t.maybeSweep now).Sound := by
  rcases t.maybeSweep_cases now with heq | heq
  · rw [heq]
    exact h
  · rw [heq]
    exact h.swept.sweep now

theorem Sound.get?_maybeSweep (h : t.Sound) (now : Time.Instant) (k : InstanceKey) :
    (t.maybeSweep now).get? k = t.get? k ∨
      (t.maybeSweep now).get? k = (t.get? k).filter fun i => !t.evicts now i := by
  rcases t.maybeSweep_cases now with heq | heq
  · rw [heq]
    exact .inl rfl
  · rw [heq]
    exact .inr (h.swept.get?_sweep now k)

theorem maybeSweep_next (t : Instances) (now : Time.Instant) :
    (t.maybeSweep now).next = t.next ∧ (t.maybeSweep now).historyLimit = t.historyLimit ∧
      (t.maybeSweep now).ttlMs = t.ttlMs := by
  rcases t.maybeSweep_cases now with heq | heq <;> rw [heq] <;> exact ⟨rfl, rfl, rfl⟩

/-! ## Changes of one instance -/

theorem Sound.update (h : t.Sound) (serial : Nat) {f : Instance → Instance}
    (hkey : ∀ i, (f i).key = i.key) (hserial : ∀ i, (f i).serial = i.serial)
    (hlimit : ∀ i ∈ t.live, i.serial = serial →
      (f i).conversation.history.limit = max t.historyLimit 1) : (t.update serial f).Sound := by
  have hmap {γ : Type} (g : Instance → γ) (hg : ∀ i, g (f i) = g i) :
      (t.update serial f).live.map g = t.live.map g := by
    simp only [Instances.update, List.map_map]
    apply List.map_congr_left
    intro i _
    simp only [Function.comp]
    split <;> simp [hg]
  constructor
  case keys => rw [hmap _ hkey]; exact h.keys
  case serials => rw [hmap _ hserial]; exact h.serials
  case below =>
    intro i hi
    obtain ⟨j, hj, rfl⟩ := List.mem_map.mp hi
    split
    · rw [hserial]; exact h.below j hj
    · exact h.below j hj
  case limit =>
    intro i hi
    obtain ⟨j, hj, rfl⟩ := List.mem_map.mp hi
    split
    · next hs => exact hlimit j hj hs
    · exact h.limit j hj

theorem get?_update (t : Instances) (serial : Nat) {f : Instance → Instance}
    (hkey : ∀ i, (f i).key = i.key) (k : InstanceKey) :
    (t.update serial f).get? k = (t.get? k).map fun i => if i.serial = serial then f i else i := by
  simp only [get?, Instances.update, List.find?_map, Function.comp_def]
  congr 2
  funext i
  split <;> simp [hkey]

theorem exists_of_get?_update {serial : Nat} {f : Instance → Instance}
    (hkey : ∀ i, (f i).key = i.key) (hserial : ∀ i, (f i).serial = i.serial)
    (h : (t.update serial f).get? k = some j) : ∃ i, t.get? k = some i ∧ j.serial = i.serial ∧
      ((i.serial = serial ∧ j = f i) ∨ (i.serial ≠ serial ∧ j = i)) := by
  rw [get?_update t serial hkey, Option.map_eq_some_iff] at h
  obtain ⟨i, hi, rfl⟩ := h
  refine ⟨i, hi, ?_⟩
  split
  · next heq => exact ⟨hserial i, .inl ⟨heq, rfl⟩⟩
  · next hne => exact ⟨rfl, .inr ⟨hne, rfl⟩⟩

theorem get?_update_self {f : Instance → Instance} (hkey : ∀ i, (f i).key = i.key)
    (hi : t.get? k = some i) : (t.update i.serial f).get? k = some (f i) := by
  rw [get?_update t i.serial hkey, hi, Option.map_some, if_pos rfl]

theorem get?_update_of_serial_ne {serial : Nat} {f : Instance → Instance}
    (hkey : ∀ i, (f i).key = i.key) (hi : t.get? k = some i) (hne : i.serial ≠ serial) :
    (t.update serial f).get? k = some i := by
  rw [get?_update t serial hkey, hi, Option.map_some, if_neg hne]

/-! ## Access -/

/-- The instance that is made for a key. -/
def fresh (t : Instances) (key : InstanceKey) (initData : Value) (now : Time.Instant) : Instance :=
  (t.create key initData now).1

@[simp] theorem fresh_serial (t : Instances) (key : InstanceKey) (initData : Value)
    (now : Time.Instant) : (t.fresh key initData now).serial = t.next := rfl

private theorem Sound.create (h : t.Sound) (key : InstanceKey) (initData : Value)
    (now : Time.Instant) : (t.create key initData now).2.Sound := by
  have hrest := h.filter fun i => decide (i.key ≠ key)
  constructor
  case keys =>
    simp only [Instances.create, List.map_append, List.map_cons, List.map_nil]
    refine List.Nodup.append hrest.keys (List.nodup_singleton _) ?_
    simp [List.disjoint_singleton]
  case serials =>
    simp only [Instances.create, List.map_append, List.map_cons, List.map_nil]
    refine List.Nodup.append hrest.serials (List.nodup_singleton _) ?_
    rw [List.disjoint_singleton, List.mem_map]
    rintro ⟨i, hi, heq⟩
    exact absurd heq (Nat.ne_of_lt (hrest.below i hi))
  case below =>
    intro i hi
    rcases List.mem_append.mp hi with hi | hi
    · exact Nat.lt_succ_of_lt (hrest.below i hi)
    · rw [List.mem_singleton.mp hi]
      exact Nat.lt_succ_self _
  case limit =>
    intro i hi
    rcases List.mem_append.mp hi with hi | hi
    · exact hrest.limit i hi
    · rw [List.mem_singleton.mp hi]
      rfl

private theorem Sound.get?_create (h : t.Sound) (k : InstanceKey) :
    (t.create key initData now).2.get? k =
      if k = key then some (t.fresh key initData now) else t.get? k := by
  apply Option.ext
  intro i
  rw [(h.create key initData now).get?_eq_some_iff]
  simp only [Instances.create, List.mem_append, List.mem_filter, List.mem_singleton,
    decide_eq_true_eq]
  split
  · next hk =>
    subst hk
    simp only [Option.some.injEq]
    constructor
    · rintro ⟨⟨-, hne⟩ | hi, hk⟩
      · exact absurd hk hne
      · exact hi.symm
    · rintro rfl
      exact ⟨.inr rfl, rfl⟩
  · next hk =>
    rw [h.get?_eq_some_iff]
    constructor
    · rintro ⟨⟨hi, -⟩ | rfl, rfl⟩
      · exact ⟨hi, rfl⟩
      · exact absurd rfl hk
    · rintro ⟨hi, rfl⟩
      exact ⟨.inl ⟨hi, hk⟩, rfl⟩

private theorem Sound.touch (h : t.Sound) (serial : Nat) (now : Time.Instant) :
    (t.update serial (·.touch now)).Sound :=
  h.update serial (fun _ => rfl) (fun _ => rfl) fun i hi _ => h.limit i hi

/-- The access to the instance of a key without the sweep that may come before it. -/
def access (t : Instances) (key : InstanceKey) (initData : Value) (now : Time.Instant) :
    Instance × Instances :=
  let (i, t) := match t.get? key with
    | some i => if t.evicts now i then t.create key initData now else (i, t)
    | none => t.create key initData now
  (i.touch now, t.update i.serial (·.touch now))

private theorem getOrCreate_eq (t : Instances) (key : InstanceKey) (initData : Value)
    (now : Time.Instant) :
    t.getOrCreate key initData now = (t.maybeSweep now).access key initData now := rfl

private theorem touch_fresh (t : Instances) (key : InstanceKey) (initData : Value)
    (now : Time.Instant) : (t.fresh key initData now).touch now = t.fresh key initData now := by
  simp [fresh, create, Instance.touch]

/-- An access finds an instance that may not be dropped and touches it, or makes a new one. -/
theorem access_cases (t : Instances) (key : InstanceKey) (initData : Value) (now : Time.Instant) :
    (∃ i, (t.get? key).filter (fun i => !t.evicts now i) = some i ∧
      t.access key initData now = (i.touch now, t.update i.serial (·.touch now))) ∨
    ((t.get? key).filter (fun i => !t.evicts now i) = none ∧
      t.access key initData now = (t.fresh key initData now,
        (t.create key initData now).2.update t.next (·.touch now))) := by
  rw [← touch_fresh t key initData now]
  unfold access
  cases hget : t.get? key with
  | none => exact .inr ⟨rfl, rfl⟩
  | some i =>
    cases he : t.evicts now i with
    | true => exact .inr ⟨by simp [Option.filter, he], by simp [he, fresh]; rfl⟩
    | false => exact .inl ⟨i, by simp [Option.filter, he], by simp [he]⟩

theorem Sound.access (h : t.Sound) (key : InstanceKey) (initData : Value) (now : Time.Instant) :
    (t.access key initData now).2.Sound := by
  rcases t.access_cases key initData now with ⟨i, -, heq⟩ | ⟨-, heq⟩
  · rw [heq]
    exact h.touch _ now
  · rw [heq]
    exact (h.create key initData now).touch _ now

theorem access_fst (t : Instances) (key : InstanceKey) (initData : Value) (now : Time.Instant) :
    (t.access key initData now).1 =
      ((t.get? key).filter fun i => !t.evicts now i).elim (t.fresh key initData now)
        (·.touch now) := by
  rcases t.access_cases key initData now with ⟨i, hi, heq⟩ | ⟨hnone, heq⟩
  · rw [heq, hi]
    rfl
  · rw [heq, hnone]
    rfl

/-- What an access leaves under the key; it does nothing to the others. -/
theorem Sound.get?_access (h : t.Sound) (key : InstanceKey) (initData : Value)
    (now : Time.Instant) (k : InstanceKey) : (t.access key initData now).2.get? k =
      if k = key then some (t.access key initData now).1 else t.get? k := by
  rcases t.access_cases key initData now with ⟨i, hi, heq⟩ | ⟨-, heq⟩
  · have hget := (Option.filter_eq_some_iff.mp hi).1
    rw [heq, get?_update _ _ (by exact fun _ => rfl)]
    split
    · next hk => simp [hk, hget]
    · next hk =>
      cases hj : t.get? k with
      | none => rfl
      | some j => simp [h.serial_ne hj hget hk]
  · rw [heq, get?_update _ _ (by exact fun _ => rfl), h.get?_create]
    split
    · simp [touch_fresh]
    · cases hj : t.get? k with
      | none => rfl
      | some j => simp [Nat.ne_of_lt (h.below j (mem_of_get? hj))]

theorem access_next (t : Instances) (key : InstanceKey) (initData : Value) (now : Time.Instant) :
    (t.access key initData now).2.next =
      ((t.get? key).filter fun i => !t.evicts now i).elim (t.next + 1) fun _ => t.next := by
  rcases t.access_cases key initData now with ⟨i, hi, heq⟩ | ⟨hnone, heq⟩
  · rw [heq, hi]
    rfl
  · rw [heq, hnone]
    rfl

theorem access_settings (t : Instances) (key : InstanceKey) (initData : Value)
    (now : Time.Instant) : (t.access key initData now).2.historyLimit = t.historyLimit ∧
      (t.access key initData now).2.ttlMs = t.ttlMs := by
  rcases t.access_cases key initData now with ⟨i, -, heq⟩ | ⟨-, heq⟩ <;> rw [heq] <;>
    exact ⟨rfl, rfl⟩

private theorem evicts_maybeSweep (t : Instances) (now : Time.Instant) (i : Instance) :
    (t.maybeSweep now).evicts now i = t.evicts now i := by
  rw [evicts, evicts, (t.maybeSweep_next now).2.2]

private theorem fresh_maybeSweep (t : Instances) (key : InstanceKey) (initData : Value)
    (now : Time.Instant) :
    (t.maybeSweep now).fresh key initData now = t.fresh key initData now := by
  obtain ⟨hnext, hlimit, -⟩ := t.maybeSweep_next now
  simp only [fresh, create, hnext, hlimit]

private theorem Sound.filter_maybeSweep (h : t.Sound) (now : Time.Instant) (k : InstanceKey) :
    ((t.maybeSweep now).get? k).filter (fun i => !t.evicts now i) =
      (t.get? k).filter fun i => !t.evicts now i := by
  rcases h.get?_maybeSweep now k with heq | heq
  · rw [heq]
  · rw [heq]
    simp [Option.filter_filter]

theorem Sound.getOrCreate_fst (h : t.Sound) (key : InstanceKey) (initData : Value)
    (now : Time.Instant) :
    (t.getOrCreate key initData now).1 =
      ((t.get? key).filter fun i => !t.evicts now i).elim (t.fresh key initData now)
        (·.touch now) := by
  simp only [getOrCreate_eq, access_fst, evicts_maybeSweep, fresh_maybeSweep, h.filter_maybeSweep]

theorem Sound.getOrCreate (h : t.Sound) (key : InstanceKey) (initData : Value)
    (now : Time.Instant) : (t.getOrCreate key initData now).2.Sound :=
  (h.maybeSweep now).access key initData now

/-- What an access leaves under the key, and that under the others it does no more than the sweep.
-/
theorem Sound.get?_getOrCreate (h : t.Sound) (key : InstanceKey) (initData : Value)
    (now : Time.Instant) (k : InstanceKey) :
    (t.getOrCreate key initData now).2.get? k =
      if k = key then some (t.getOrCreate key initData now).1 else (t.maybeSweep now).get? k :=
  (h.maybeSweep now).get?_access key initData now k

/-- What sweeps and accesses do to a table: busy instances stay, no conversation is changed, and
what is new is idle and has no turns. -/
structure Tended (t t' : Instances) : Prop where
  sound : t'.Sound
  next_le : t.next ≤ t'.next
  historyLimit : t'.historyLimit = t.historyLimit
  old : ∀ k j, t'.get? k = some j → (∃ i, t.get? k = some i ∧ i.Same j) ∨
    (t.next ≤ j.serial ∧ j.busy = false ∧ j.conversation.history.turns = [])
  busy : ∀ k i, t.get? k = some i → i.busy = true → ∃ j, t'.get? k = some j ∧ i.Same j

theorem filter_of_busy {o : Option Instance} (h : o = some i) (hb : i.busy = true) :
    o.filter (fun i => !t.evicts now i) = some i := by
  simp [h, Option.filter, evicts, hb]

private theorem tended_of_filter {t' : Instances} (ht' : t'.Sound)
    (hnext : t'.next = t.next) (hlimit : t'.historyLimit = t.historyLimit)
    (hget : ∀ k, t'.get? k = t.get? k ∨
      t'.get? k = (t.get? k).filter fun i => !t.evicts now i) : t.Tended t' := by
  constructor
  case sound => exact ht'
  case next_le => exact Nat.le_of_eq hnext.symm
  case historyLimit => exact hlimit
  case old =>
    intro k j hj
    rcases hget k with heq | heq
    · exact .inl ⟨j, heq ▸ hj, .refl j⟩
    · rw [heq, Option.filter_eq_some_iff] at hj
      exact .inl ⟨j, hj.1, .refl j⟩
  case busy =>
    intro k i hi hb
    rcases hget k with heq | heq
    · exact ⟨i, heq ▸ hi, .refl i⟩
    · exact ⟨i, heq.trans (filter_of_busy hi hb), .refl i⟩

theorem Sound.tended_sweep (h : t.Sound) (now : Time.Instant) : t.Tended (t.sweep now) :=
  tended_of_filter (h.sweep now) rfl rfl fun k => .inr (h.get?_sweep now k)

theorem Sound.tended_maybeSweep (h : t.Sound) (now : Time.Instant) :
    t.Tended (t.maybeSweep now) :=
  tended_of_filter (h.maybeSweep now) (t.maybeSweep_next now).1 (t.maybeSweep_next now).2.1
    (h.get?_maybeSweep now)

theorem Sound.getOrCreate_busy (h : t.Sound) (hi : t.get? key = some i) (hb : i.busy = true) :
    (t.getOrCreate key initData now).1 = i.touch now := by
  rw [h.getOrCreate_fst, filter_of_busy hi hb]
  rfl

theorem Sound.exists_busy (h : t.Sound) (hb : (t.getOrCreate key initData now).1.busy = true) :
    ∃ i, t.get? key = some i ∧ i.busy = true := by
  rw [h.getOrCreate_fst] at hb
  cases hfound : (t.get? key).filter fun i => !t.evicts now i with
  | none =>
    rw [hfound] at hb
    cases hb
  | some i =>
    rw [hfound] at hb
    exact ⟨i, (Option.filter_eq_some_iff.mp hfound).1, hb⟩

private theorem getOrCreate_next (t : Instances) (key : InstanceKey) (initData : Value)
    (now : Time.Instant) : t.next ≤ (t.getOrCreate key initData now).2.next ∧
      (t.getOrCreate key initData now).2.historyLimit = t.historyLimit := by
  obtain ⟨hnext, hlimit, -⟩ := t.maybeSweep_next now
  rw [getOrCreate_eq, access_next, (access_settings _ _ _ _).1, hnext, hlimit]
  refine ⟨?_, rfl⟩
  cases ((t.maybeSweep now).get? key).filter _
  · exact Nat.le_succ _
  · exact Nat.le_refl _

theorem Sound.tended_getOrCreate (h : t.Sound) (key : InstanceKey) (initData : Value)
    (now : Time.Instant) : t.Tended (t.getOrCreate key initData now).2 := by
  have hswept := h.tended_maybeSweep now
  obtain ⟨hnext, hlimit⟩ := t.getOrCreate_next key initData now
  constructor
  case sound => exact h.getOrCreate key initData now
  case next_le => exact hnext
  case historyLimit => exact hlimit
  case old =>
    intro k j hj
    rw [h.get?_getOrCreate] at hj
    split at hj
    · next hk =>
      subst hk
      rw [h.getOrCreate_fst, Option.some.injEq] at hj
      cases hfound : (t.get? k).filter fun i => !t.evicts now i with
      | none =>
        rw [hfound] at hj
        subst hj
        exact .inr ⟨Nat.le_refl _, rfl, rfl⟩
      | some i =>
        rw [hfound] at hj
        subst hj
        exact .inl ⟨i, (Option.filter_eq_some_iff.mp hfound).1, i.same_touch now⟩
    · exact hswept.old k j hj
  case busy =>
    intro k i hi hb
    rw [h.get?_getOrCreate]
    split
    · next hk =>
      subst hk
      rw [h.getOrCreate_busy hi hb]
      exact ⟨_, rfl, i.same_touch now⟩
    · exact hswept.busy k i hi hb

theorem beginTurn_eq (t : Instances) (key : InstanceKey) (now : Time.Instant) :
    t.beginTurn key now = if (t.getOrCreate key .null now).1.busy = true then
        (none, (t.getOrCreate key .null now).2)
      else (some (t.getOrCreate key .null now).1, (t.getOrCreate key .null now).2.update
        (t.getOrCreate key .null now).1.serial fun i => { i with busy := true }) := by
  rcases h : t.getOrCreate key .null now with ⟨i, u⟩
  unfold beginTurn lock?
  rw [h]
  dsimp only
  split <;> simp_all

end Instances

end Automation
