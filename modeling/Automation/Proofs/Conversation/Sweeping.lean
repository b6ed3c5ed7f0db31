import Automation.Proofs.Conversation.Copies

/-!
# Sweeps are not noticed

Whatever a sweep removes an access would have replaced. So messages and the creation of instances
find the same whether sweeps take place or not: the same instance as before, or a new one under the
same number. An instance that handles a message may lose neither its place nor its conversation.
-/

namespace Automation

open Json

namespace Instances

variable {key k : InstanceKey} {t u : Instances} {i j : Instance} {clock now : Time.Instant}
  {serial : Nat}

/-- Of the instances in the second table the first has all but some that may be removed. -/
structure Thinned (clock : Time.Instant) (t u : Instances) : Prop where
  settings : u.SameSettings t
  next : t.next = u.next
  get? : ∀ k, t.get? k = u.get? k ∨ t.get? k = (u.get? k).filter fun i => !u.evicts clock i

private theorem Thinned.refl (clock : Time.Instant) (t : Instances) : Thinned clock t t :=
  ⟨.refl t, rfl, fun _ => .inl rfl⟩

private theorem evicts_eq (hs : u.SameSettings t) (now : Time.Instant) (i : Instance) :
    t.evicts now i = u.evicts now i := evicts_copy hs (show i.Copy i from rfl) now

private theorem Thinned.filter_eq (h : Thinned clock t u) (hclock : clock.toMillis ≤ now.toMillis)
    (k : InstanceKey) : (t.get? k).filter (fun i => !t.evicts now i) =
      (u.get? k).filter fun i => !u.evicts now i := by
  simp only [evicts_eq h.settings]
  rcases h.get? k with heq | heq
  · rw [heq]
  · -- what might be removed before may be removed now
    rw [heq, Option.filter_filter]
    congr 1
    funext i
    cases he : u.evicts clock i with
    | true => simp [evicts_mono he hclock]
    | false => simp

private theorem Thinned.mono (h : Thinned clock t u) (hclock : clock.toMillis ≤ now.toMillis) :
    Thinned now t u := by
  refine ⟨h.settings, h.next, fun k => ?_⟩
  rcases h.get? k with heq | heq
  · exact .inl heq
  · rw [heq]
    cases hu : u.get? k with
    | none => exact .inl rfl
    | some i =>
      cases he : u.evicts clock i with
      | true => exact .inr (by simp [Option.filter, he, evicts_mono he hclock])
      | false => exact .inl (by simp [Option.filter, he])

private theorem Thinned.filtered (h : Thinned now t u) {t' : Instances} (hs : t.SameSettings t')
    (hnext : t'.next = t.next) (hget : ∀ k, t'.get? k = t.get? k ∨
      t'.get? k = (t.get? k).filter fun i => !t.evicts now i) : Thinned now t' u := by
  refine ⟨h.settings.trans hs, hnext.trans h.next, fun k => ?_⟩
  rcases hget k with heq | heq
  · rw [heq]
    exact h.get? k
  · rw [heq, h.filter_eq (Int.le_refl _)]
    exact .inr rfl

private theorem Thinned.sweep (h : Thinned now t u) (ht : t.Sound) : Thinned now (t.sweep now) u :=
  h.filtered (.refl t) rfl fun k => .inr (ht.get?_sweep now k)

private theorem Thinned.maybeSweep (h : Thinned now t u) (ht : t.Sound) :
    Thinned now (t.maybeSweep now) u :=
  h.filtered (t.sameSettings_maybeSweep now) (t.maybeSweep_next now).1 (ht.get?_maybeSweep now)

private theorem Thinned.access_fst (h : Thinned now t u) (key : InstanceKey) (initData : Value) :
    (t.access key initData now).1 = (u.access key initData now).1 := by
  have hfresh : t.fresh key initData now = u.fresh key initData now := by
    simp only [fresh, create, h.next, h.settings.2]
  rw [Instances.access_fst, Instances.access_fst, h.filter_eq (Int.le_refl _), hfresh]

private theorem Thinned.access (h : Thinned now t u) (ht : t.Sound) (hu : u.Sound)
    (key : InstanceKey) (initData : Value) :
    Thinned now (t.access key initData now).2 (u.access key initData now).2 := by
  obtain ⟨htlimit, htttl⟩ := t.access_settings key initData now
  obtain ⟨hulimit, huttl⟩ := u.access_settings key initData now
  have hsame : u.SameSettings (u.access key initData now).2 := ⟨huttl, hulimit⟩
  constructor
  case settings => exact (hsame.symm.trans h.settings).trans ⟨htttl, htlimit⟩
  case next => rw [access_next, access_next, h.filter_eq (Int.le_refl _), h.next]
  case get? =>
    intro k
    rw [ht.get?_access, hu.get?_access, h.access_fst]
    simp only [evicts_eq hsame]
    split
    · exact .inl rfl
    · exact h.get? k

private theorem Thinned.update (h : Thinned now t u) {f : Instance → Instance}
    (hkey : ∀ i, (f i).key = i.key)
    (hkept : ∀ k i, u.get? k = some i → i.serial = serial → t.get? k = some i) :
    Thinned now (t.update serial f) (u.update serial f) := by
  refine ⟨h.settings, h.next, fun k => ?_⟩
  rw [get?_update t serial hkey, get?_update u serial hkey]
  rcases h.get? k with heq | heq
  · exact .inl (by rw [heq])
  · cases hu : u.get? k with
    | none => exact .inl (by rw [heq, hu]; rfl)
    | some i =>
      by_cases hs : i.serial = serial
      · exact .inl (by rw [hkept k i hu hs])
      · refine .inr ?_
        rw [heq, hu, Option.map_some, if_neg hs]
        change ((some i).filter fun i => !u.evicts now i).map _ =
          (some i).filter fun i => !u.evicts now i
        cases he : u.evicts now i <;> simp [Option.filter, he, hs]

end Instances

/-! ## Courses of a table -/

/-- A conversation whose history keeps so many turns, or one at least. -/
abbrev Conversation.Kept (limit : Nat) := { c : Conversation // c.history.limit = max limit 1 }

/-- What may happen to a table whose histories keep so many turns. -/
inductive Visit (limit : Nat) where
  /-- An instance is created, unless there is one. -/
  | create (key : InstanceKey) (initData : Value)
  /-- A message arrives and locks the instance that it is given, or is turned away. -/
  | arrive (key : InstanceKey)
  /-- The message that has locked an instance writes its conversation. -/
  | keep (serial : Nat) (c : Conversation.Kept limit)
  /-- The message that has locked an instance ends. -/
  | leave (serial : Nat) (c : Conversation.Kept limit)
  | sweep
  | maybeSweep

def Visit.sweeps {limit : Nat} : Visit limit → Bool
  | sweep | maybeSweep => true
  | _ => false

/-- A table with the numbers of the instances that messages have locked. -/
structure Desk where
  table : Instances
  locked : List Nat := []

/-- How the instance of a key is got from a table. -/
abbrev Access := Instances → InstanceKey → Value → Time.Instant → Instance × Instances

namespace Desk

variable {limit : Nat} {clock now : Time.Instant} {d e : Desk} {serial : Nat}

/-- The instance that is given, if any, and the desk after the visit. What is said to be done by a
message happens only if there is such a message. -/
def receive (access : Access) (now : Time.Instant) (d : Desk) :
    Visit limit → Option Instance × Desk
  | .create key initData =>
    let (i, t) := access d.table key initData now
    (some i, { d with table := t })
  | .arrive key =>
    let (i, t) := access d.table key .null now
    match t.lock? i with
    | some t => (some i, ⟨t, i.serial :: d.locked⟩)
    | none => (some i, { d with table := t })
  | .keep serial c =>
    (none, if serial ∈ d.locked then { d with table := d.table.store serial c } else d)
  | .leave serial c =>
    (none, if serial ∈ d.locked then
      ⟨d.table.finish serial c now, d.locked.filter (· ≠ serial)⟩ else d)
  | .sweep => (none, { d with table := d.table.sweep now })
  | .maybeSweep => (none, { d with table := d.table.maybeSweep now })

/-- The instances that are given as the visits go by, each at its time. -/
def given (access : Access) : List (Time.Instant × Visit limit) → Desk → List Instance
  | [], _ => []
  | (now, v) :: rest, d => (d.receive access now v).1.toList ++
      given access rest (d.receive access now v).2

/-- A message that arrives begins its turn. -/
theorem receive_arrive (d : Desk) (key : InstanceKey) (now : Time.Instant) :
    (d.receive Instances.getOrCreate now (.arrive key : Visit limit)).2.table =
      (d.table.beginTurn key now).2 := by
  simp only [receive, Instances.beginTurn]
  cases (d.table.getOrCreate key .null now).2.lock? (d.table.getOrCreate key .null now).1 <;> rfl

/-- The first desk is the second, but that idle instances may have been removed from its table. The
instances that messages have locked are busy, as far as they are still there. -/
structure Agree (limit : Nat) (now : Time.Instant) (d e : Desk) : Prop where
  sound : d.table.Sound
  sound' : e.table.Sound
  limit : e.table.historyLimit = limit
  thinned : d.table.Thinned now e.table
  locked : d.locked = e.locked
  busy : ∀ k i, e.table.get? k = some i → i.serial ∈ e.locked → i.busy = true
  below : ∀ serial ∈ e.locked, serial < e.table.next

private theorem Agree.mono (h : Agree limit clock d e) (hclock : clock.toMillis ≤ now.toMillis) :
    Agree limit now d e := { h with thinned := h.thinned.mono hclock }

private theorem Agree.swept (h : Agree limit now d e) :
    Agree limit now { d with table := d.table.sweep now } e :=
  { h with sound := h.sound.sweep now, thinned := h.thinned.sweep h.sound }

private theorem Agree.maybeSwept (h : Agree limit now d e) :
    Agree limit now { d with table := d.table.maybeSweep now } e :=
  { h with sound := h.sound.maybeSweep now, thinned := h.thinned.maybeSweep h.sound }

private theorem Agree.accessed (h : Agree limit now d e) (key : InstanceKey) (initData : Value) :
    Agree limit now { d with table := (d.table.access key initData now).2 }
      { e with table := (e.table.access key initData now).2 } := by
  have hnext : e.table.next ≤ (e.table.access key initData now).2.next := by
    rw [Instances.access_next]
    cases (e.table.get? key).filter _
    · exact Nat.le_succ _
    · exact Nat.le_refl _
  constructor
  case sound => exact h.sound.access key initData now
  case sound' => exact h.sound'.access key initData now
  case limit => exact (e.table.access_settings key initData now).1.trans h.limit
  case thinned => exact h.thinned.access h.sound h.sound' key initData
  case locked => exact h.locked
  case below => exact fun serial hs => Nat.lt_of_lt_of_le (h.below serial hs) hnext
  case busy =>
    intro k i hi hlocked
    rw [h.sound'.get?_access] at hi
    split at hi
    · obtain rfl := Option.some.inj hi
      rw [Instances.access_fst] at hlocked ⊢
      cases hfound : (e.table.get? key).filter fun i => !e.table.evicts now i with
      | none =>
        -- the instance is new, so no message has locked its number
        rw [hfound] at hlocked
        exact absurd (h.below _ hlocked) (Nat.lt_irrefl _)
      | some j =>
        rw [hfound] at hlocked
        exact h.busy key j (Option.filter_eq_some_iff.mp hfound).1 hlocked
    · exact h.busy k i hi hlocked

private theorem Agree.updated (h : Agree limit now d e) {f : Instance → Instance}
    {locked : List Nat} (hkey : ∀ i, (f i).key = i.key) (hserial : ∀ i, (f i).serial = i.serial)
    (hlimit : ∀ i, i.conversation.history.limit = max limit 1 →
      (f i).conversation.history.limit = max limit 1)
    (hkept : ∀ k i, e.table.get? k = some i → i.serial = serial → d.table.get? k = some i)
    (hbusy : ∀ k i, e.table.get? k = some i → i.serial = serial → serial ∈ locked →
      (f i).busy = true)
    (hlocked : ∀ s ∈ locked, s ≠ serial → s ∈ e.locked) (hbelow : serial < e.table.next) :
    Agree limit now ⟨d.table.update serial f, locked⟩ ⟨e.table.update serial f, locked⟩ := by
  have hlimit' : d.table.historyLimit = limit := h.thinned.settings.2.trans h.limit
  constructor
  case sound =>
    refine h.sound.update serial hkey hserial fun i hi _ => ?_
    rw [hlimit']
    exact hlimit i (hlimit' ▸ h.sound.limit i hi)
  case sound' =>
    refine h.sound'.update serial hkey hserial fun i hi _ => ?_
    rw [h.limit]
    exact hlimit i (h.limit ▸ h.sound'.limit i hi)
  case limit => exact h.limit
  case thinned => exact h.thinned.update hkey hkept
  case locked => rfl
  case below =>
    intro s hs
    by_cases heq : s = serial
    · exact heq ▸ hbelow
    · exact h.below s (hlocked s hs heq)
  case busy =>
    intro k j hj hs
    obtain ⟨i, hi, hsame, ⟨heq, rfl⟩ | ⟨hne, rfl⟩⟩ :=
      Instances.exists_of_get?_update hkey hserial hj
    · exact hbusy k i hi heq (heq ▸ hsame ▸ hs)
    · exact h.busy k j hi (hlocked j.serial hs hne)

private theorem Agree.kept (h : Agree limit now d e) (hs : serial ∈ e.locked) {k : InstanceKey}
    {i : Instance} (hi : e.table.get? k = some i) (hserial : i.serial = serial) :
    d.table.get? k = some i := by
  have hbusy : i.busy = true := h.busy k i hi (hserial ▸ hs)
  rcases h.thinned.get? k with heq | heq
  · exact heq.trans hi
  · exact heq.trans (Instances.filter_of_busy hi hbusy)

private theorem receive_arrive_eq (access : Access) (d : Desk) (key : InstanceKey)
    (now : Time.Instant) :
    d.receive access now (.arrive key : Visit limit) = (some (access d.table key .null now).1,
      if (access d.table key .null now).1.busy = true then
        { d with table := (access d.table key .null now).2 }
      else ⟨(access d.table key .null now).2.update (access d.table key .null now).1.serial
        fun i => { i with busy := true },
          (access d.table key .null now).1.serial :: d.locked⟩) := by
  rcases h : access d.table key .null now with ⟨i, t⟩
  simp only [receive, h, Instances.lock?]
  cases i.busy <;> rfl

private theorem Agree.arrived (h : Agree limit now d e) (key : InstanceKey) :
    (d.receive Instances.access now (.arrive key : Visit limit)).1 =
        (e.receive Instances.access now (.arrive key : Visit limit)).1 ∧
      Agree limit now (d.receive Instances.access now (.arrive key : Visit limit)).2
        (e.receive Instances.access now (.arrive key : Visit limit)).2 := by
  have hfst := h.thinned.access_fst key .null
  have haccessed := h.accessed key .null
  rw [receive_arrive_eq, receive_arrive_eq, hfst, h.locked]
  refine ⟨rfl, ?_⟩
  have hget : (e.table.access key .null now).2.get? key =
      some (e.table.access key .null now).1 := by
    rw [h.sound'.get?_access, if_pos rfl]
  have hget' : (d.table.access key .null now).2.get? key =
      some (e.table.access key .null now).1 := by
    rw [h.sound.get?_access, if_pos rfl, hfst]
  split
  · exact h.locked ▸ haccessed
  · refine haccessed.updated (fun _ => rfl) (fun _ => rfl) (fun _ hi => hi) ?_
      (fun _ _ _ _ _ => rfl) ?_ (haccessed.sound'.below _ (Instances.mem_of_get? hget))
    · intro k i hi hserial
      obtain rfl := haccessed.sound'.eq_of_serial hi hget hserial
      rw [← Instances.key_of_get? hi, Instances.key_of_get? hget]
      exact hget'
    · intro s hs hne
      exact (List.mem_cons.mp hs).resolve_left hne

/-- What happens at both desks, sweeps apart, gives the same instance. -/
theorem Agree.receive (h : Agree limit now d e) {v : Visit limit} (hv : v.sweeps = false) :
    (d.receive Instances.getOrCreate now v).1 = (e.receive Instances.access now v).1 ∧
      Agree limit now (d.receive Instances.getOrCreate now v).2
        (e.receive Instances.access now v).2 := by
  cases v with
  | create key initData =>
    exact ⟨congrArg some (h.maybeSwept.thinned.access_fst key initData),
      h.maybeSwept.accessed key initData⟩
  | arrive key => exact h.maybeSwept.arrived key
  | keep serial c =>
    refine ⟨rfl, ?_⟩
    simp only [Desk.receive, h.locked, Instances.store]
    split
    · next hs =>
      rw [← h.locked]
      exact h.updated (fun _ => rfl) (fun _ => rfl) (fun _ _ => c.2) (fun k i => h.kept hs)
        (fun k i hi heq _ => h.busy k i hi (heq ▸ hs)) (fun s hs _ => h.locked ▸ hs)
        (h.below serial hs)
    · exact h
  | leave serial c =>
    refine ⟨rfl, ?_⟩
    simp only [Desk.receive, h.locked, Instances.finish]
    split
    · next hs =>
      refine h.updated (fun _ => rfl) (fun _ => rfl) (fun _ _ => c.2) (fun k i => h.kept hs)
        ?_ ?_ (h.below serial hs)
      · intro k i _ _ hmem
        simp at hmem
      · exact fun s hmem _ => (List.mem_filter.mp hmem).1
    · exact h
  | sweep => cases hv
  | maybeSweep => cases hv

private theorem Agree.receive_sweep (h : Agree limit now d e) {v : Visit limit}
    (hv : v.sweeps = true) : (d.receive Instances.getOrCreate now v).1 = none ∧
      Agree limit now (d.receive Instances.getOrCreate now v).2 e := by
  cases v with
  | sweep => exact ⟨rfl, h.swept⟩
  | maybeSweep => exact ⟨rfl, h.maybeSwept⟩
  | create | arrive | keep | leave => cases hv

private theorem Agree.given_eq (h : Agree limit clock d e)
    {visits : List (Time.Instant × Visit limit)}
    (hclock : ∀ x ∈ visits, clock.toMillis ≤ x.1.toMillis)
    (hordered : visits.Pairwise fun x y => x.1.toMillis ≤ y.1.toMillis) :
    d.given Instances.getOrCreate visits =
      e.given Instances.access (visits.filter fun x => !x.2.sweeps) := by
  -- a sweep moves the first desk alone, and is not among the visits to the second
  induction visits generalizing clock d e with
  | nil => rfl
  | cons x visits ih =>
    obtain ⟨now, v⟩ := x
    obtain ⟨hlater, hordered⟩ := List.pairwise_cons.mp hordered
    have hnow : Agree limit now d e := h.mono (hclock _ List.mem_cons_self)
    cases hv : v.sweeps with
    | true =>
      obtain ⟨hnone, hagree⟩ := hnow.receive_sweep hv
      rw [given, hnone, List.filter_cons_of_neg (by simp [hv])]
      exact ih hagree hlater hordered
    | false =>
      obtain ⟨hsame, hagree⟩ := hnow.receive hv
      rw [List.filter_cons_of_pos (by simp [hv]), given, given, hsame]
      rw [ih hagree hlater hordered]

end Desk

/-- Sweeps are not noticed. Whatever the table holds at first, with any settings, the instances that
are given to messages and creations in the order of their times are the same, with their numbers,
conversations and times, as if no sweep had taken place, neither on its own nor before an access. -/
theorem Desk.given_sweeping {t : Instances} (ht : t.Sound)
    {visits : List (Time.Instant × Visit t.historyLimit)}
    (hordered : visits.Pairwise fun x y => x.1.toMillis ≤ y.1.toMillis) :
    (⟨t, []⟩ : Desk).given Instances.getOrCreate visits =
      (⟨t, []⟩ : Desk).given Instances.access (visits.filter fun x => !x.2.sweeps) := by
  cases visits with
  | nil => rfl
  | cons x visits =>
    have hagree : Agree t.historyLimit x.1 ⟨t, []⟩ ⟨t, []⟩ :=
      ⟨ht, ht, rfl, .refl _ t, rfl, by simp, by simp⟩
    refine hagree.given_eq (fun y hy => ?_) hordered
    rcases List.mem_cons.mp hy with rfl | hy
    · exact Int.le_refl _
    · exact (List.pairwise_cons.mp hordered).1 y hy

/-- No instances, which may be idle for an hour. -/
def Instances.hourly : Instances where
  ttlMs := 3600000
  sweepIntervalMs := 300000
  historyLimit := 50
  lastSweep := 0

/-- A message locks an instance for two hours, in which it is neither swept nor given away. After
two more hours it is swept, and the next message is given a new one. -/
def Desk.longTurn : List (Time.Instant × Visit Instances.hourly.historyLimit) :=
  [(⟨0, 0⟩, .create ⟨"agent", "session"⟩ .null), (⟨60, 0⟩, .arrive ⟨"agent", "session"⟩),
    (⟨7200, 0⟩, .sweep), (⟨7200, 0⟩, .arrive ⟨"agent", "session"⟩),
    (⟨7260, 0⟩, .leave 0 ⟨{ history := .empty 50 }, rfl⟩), (⟨14460, 0⟩, .maybeSweep),
    (⟨14460, 0⟩, .arrive ⟨"agent", "session"⟩)]

theorem Desk.given_sweeping_longTurn :
    Instances.hourly.Sound ∧
      (Desk.longTurn.Pairwise fun x y => x.1.toMillis ≤ y.1.toMillis) ∧
      ((⟨.hourly, []⟩ : Desk).given Instances.getOrCreate Desk.longTurn).map (·.serial) =
        [0, 0, 0, 1] ∧
      (⟨.hourly, []⟩ : Desk).given Instances.getOrCreate Desk.longTurn =
        (⟨.hourly, []⟩ : Desk).given Instances.access
          (Desk.longTurn.filter fun x => !x.2.sweeps) := by
  have hsound : Instances.hourly.Sound := by
    constructor <;> simp [Instances.hourly]
  have hordered : Desk.longTurn.Pairwise fun x y => x.1.toMillis ≤ y.1.toMillis := by
    decide +kernel
  have hsame := Desk.given_sweeping hsound hordered
  exact ⟨hsound, hordered, by decide +kernel, hsame⟩

end Automation
