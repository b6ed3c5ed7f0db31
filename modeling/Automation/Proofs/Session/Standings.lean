import Automation.Proofs.Conversation.History
import Automation.Proofs.Session.Turns

/-!
# Standings of messages

How messages stand to the table of instances: an instance is busy exactly as long as one message has
it, and its history holds the latest turns of the messages that got it. This is preserved when a
message gets an instance, keeps a turn there or is turned away, and by everything else that is asked
of the table.
-/

namespace Automation.Session

open History (latest)

/-- How the messages stand to the instances: what each has come to, the key and the text of each,
and those that got the instance with a number, in their order. -/
structure Standings where
  phase : Nat → Phase
  about : Nat → Option (InstanceKey × String)
  served : Nat → List Nat

namespace Standings

/-- The turns of a message so far. -/
def turns (b : Standings) (n : Nat) : List Model.Message :=
  (b.about n).elim [] fun a => (b.phase n).turns a.2

/-- The standings after a message has come to another phase. -/
def set (b : Standings) (n : Nat) (x : Phase) : Standings :=
  { b with phase := Function.update b.phase n x }

/-- The standings after a message got an instance. -/
def serve (b : Standings) (n serial : Nat) (c : Conversation) : Standings :=
  { b with
    phase := Function.update b.phase n (.begun serial c)
    served := Function.update b.served serial (b.served serial ++ [n]) }

variable {b : Standings} {t t' : Instances} {m n serial k next : Nat} {c : Conversation} {x : Phase}

@[simp] theorem set_phase_self : (b.set n x).phase n = x := by simp [set]

private theorem set_phase_of_ne (h : m ≠ n) : (b.set n x).phase m = b.phase m := by simp [set, h]

private theorem turns_set_of_ne (h : m ≠ n) :
    (b.set n x).turns m = b.turns m := by simp [turns, set, h]

private theorem flatMap_turns_set {ns : List Nat} (h : n ∉ ns) :
    ns.flatMap (b.set n x).turns = ns.flatMap b.turns :=
  List.flatMap_congr fun _ hm => turns_set_of_ne fun heq => h (heq ▸ hm)

@[simp] theorem serve_phase_self : (b.serve n serial c).phase n = .begun serial c := by
  simp [serve]

private theorem serve_phase_of_ne (h : m ≠ n) : (b.serve n serial c).phase m = b.phase m := by
  simp [serve, h]

@[simp] theorem serve_served_self :
    (b.serve n serial c).served serial = b.served serial ++ [n] := by
  simp [serve]

private theorem serve_served_of_ne (h : k ≠ serial) :
    (b.serve n serial c).served k = b.served k := by
  simp [serve, h]

private theorem mem_serve_served : m ∈ (b.serve n serial c).served k ↔
    m ∈ b.served k ∨ (m = n ∧ k = serial) := by
  by_cases hk : k = serial <;> simp [serve, hk]

private theorem flatMap_turns_serve {ns : List Nat} (h : n ∉ ns) :
    ns.flatMap (b.serve n serial c).turns = ns.flatMap b.turns := by
  refine List.flatMap_congr fun m hm => ?_
  have hne : m ≠ n := fun heq => h (heq ▸ hm)
  simp [turns, serve, hne]

@[simp] theorem turns_serve_self : (b.serve n serial c).turns n = [] := by
  cases h : b.about n <;> simp [turns, serve, h, Phase.turns]

/-! ## Order -/

/-- Every message that got an instance got it once, and the one that has it got it last. -/
structure Ordered (b : Standings) (next : Nat) : Prop where
  last : ∀ n serial c, (b.phase n).held? = some (serial, c) → (b.served serial).getLast? = some n
  once : ∀ serial, (b.served serial).Nodup
  got : ∀ serial n, n ∈ b.served serial ↔ (b.phase n).serial? = some serial
  below : ∀ serial n, n ∈ b.served serial → serial < next

theorem Ordered.eq_of_held (h : b.Ordered next) {c' : Conversation}
    (hn : (b.phase n).held? = some (serial, c)) (hm : (b.phase m).held? = some (serial, c')) :
    n = m := by
  have hlast := h.last n serial c hn
  rw [h.last m serial c' hm] at hlast
  exact (Option.some.inj hlast).symm

private theorem Ordered.not_mem (h : b.Ordered next) (hn : (b.phase n).serial? = none)
    (serial : Nat) : n ∉ b.served serial := by
  rw [h.got, hn]
  exact nofun

private theorem Ordered.mono (h : b.Ordered next) {next' : Nat} (hnext : next ≤ next') :
    b.Ordered next' :=
  ⟨h.last, h.once, h.got, fun serial n hn => Nat.lt_of_lt_of_le (h.below serial n hn) hnext⟩

private theorem Ordered.set (h : b.Ordered next) (hserial : x.serial? = (b.phase n).serial?)
    (hheld : ∀ y, x.held? = some y → ∃ c, (b.phase n).held? = some (y.1, c)) :
    (b.set n x).Ordered next := by
  constructor
  case last =>
    intro m serial c hm
    by_cases hmn : m = n
    · rw [hmn, set_phase_self] at hm
      obtain ⟨c', hn⟩ := hheld _ hm
      rw [hmn]
      exact h.last n serial c' hn
    · rw [set_phase_of_ne hmn] at hm
      exact h.last m serial c hm
  case once => exact h.once
  case got =>
    intro serial m
    refine (h.got serial m).trans ?_
    by_cases hmn : m = n
    · rw [hmn, set_phase_self, hserial]
    · rw [set_phase_of_ne hmn]
  case below => exact h.below

private theorem Ordered.serve (h : b.Ordered next) (hn : b.phase n = .waiting)
    (hserial : serial < next) (hfree : ∀ m c, (b.phase m).held? ≠ some (serial, c)) :
    (b.serve n serial c).Ordered next := by
  have hnone : (b.phase n).serial? = none := by rw [hn]; rfl
  constructor
  case last =>
    intro m k c' hm
    by_cases hmn : m = n
    · rw [hmn, serve_phase_self] at hm
      cases hm
      simp [hmn]
    · rw [serve_phase_of_ne hmn] at hm
      have hk : k ≠ serial := fun heq => hfree m c' (heq ▸ hm)
      rw [serve_served_of_ne hk]
      exact h.last m k c' hm
  case once =>
    intro k
    by_cases hk : k = serial
    · rw [hk, serve_served_self]
      refine (h.once serial).append (List.nodup_singleton n) ?_
      rw [List.disjoint_singleton]
      exact h.not_mem hnone serial
    · rw [serve_served_of_ne hk]
      exact h.once k
  case got =>
    intro k m
    rw [mem_serve_served, h.got k m]
    by_cases hmn : m = n
    · rw [hmn, serve_phase_self, hnone]
      simp [Phase.serial?, eq_comm]
    · rw [serve_phase_of_ne hmn]
      simp [hmn]
  case below =>
    intro k m hm
    rcases mem_serve_served.mp hm with hm | ⟨-, rfl⟩
    · exact h.below k m hm
    · exact hserial

/-! ## Instances -/

/-- The busy instances are those that messages have. -/
structure Holds (b : Standings) (t : Instances) : Prop where
  held : ∀ n serial c, (b.phase n).held? = some (serial, c) → ∃ key text i,
    b.about n = some (key, text) ∧ t.get? key = some i ∧ i.serial = serial ∧ i.busy = true ∧
      i.conversation = c
  holder : ∀ key i, t.get? key = some i → i.busy = true →
    ∃ n c, (b.phase n).held? = some (i.serial, c)

/-- The histories are made of the turns of the messages that got the instances. -/
structure Remembers (b : Standings) (t : Instances) : Prop where
  owner : ∀ key i n, t.get? key = some i → n ∈ b.served i.serial →
    ∃ text, b.about n = some (key, text)
  history : ∀ key i, t.get? key = some i → i.conversation.history.turns =
    latest i.conversation.history.limit ((b.served i.serial).flatMap b.turns)

/-- The messages have the busy instances, each its own, and the histories are made of their turns.
-/
structure Fits (b : Standings) (t : Instances) : Prop extends
    Ordered b t.next, Holds b t, Remembers b t where
  sound : t.Sound

private theorem Fits.free (h : b.Fits t) {key : InstanceKey} {i : Instance}
    (hi : t.get? key = some i) (hfree : i.busy = false) (m : Nat) (c : Conversation) :
    (b.phase m).held? ≠ some (i.serial, c) := by
  intro hm
  obtain ⟨key', text', j, -, hj, heq, hb, -⟩ := h.held m i.serial c hm
  rw [h.sound.eq_of_serial hj hi heq, hfree] at hb
  cases hb

/-! ## Everything else -/

private theorem Holds.tended (h : b.Holds t) (ht : t.Tended t') : b.Holds t' := by
  constructor
  case held =>
    intro n serial c hn
    obtain ⟨key, text, i, habout, hi, rfl, hb, rfl⟩ := h.held n serial c hn
    obtain ⟨j, hj, hsame⟩ := ht.busy key i hi hb
    rw [hsame] at hj
    exact ⟨key, text, _, habout, hj, rfl, hb, rfl⟩
  case holder =>
    intro key j hj hb
    rcases ht.old key j hj with ⟨i, hi, hsame⟩ | ⟨-, hnot, -⟩
    · rw [hsame] at hb ⊢
      exact h.holder key i hi hb
    · rw [hnot] at hb
      cases hb

theorem Fits.tended (h : b.Fits t) (ht : t.Tended t') : b.Fits t' := by
  -- nobody got an instance that is new
  have hnew {j : Instance} (hj : t.next ≤ j.serial) (n : Nat) : n ∉ b.served j.serial :=
    fun hn => absurd (h.below _ n hn) (Nat.not_lt.mpr hj)
  refine ⟨h.toOrdered.mono ht.next_le, h.toHolds.tended ht, ⟨?owner, ?history⟩, ht.sound⟩
  case owner =>
    intro key j n hj hn
    rcases ht.old key j hj with ⟨i, hi, hsame⟩ | ⟨hj, -, -⟩
    · rw [hsame] at hn
      exact h.owner key i n hi hn
    · exact absurd hn (hnew hj n)
  case history =>
    intro key j hj
    rcases ht.old key j hj with ⟨i, hi, hsame⟩ | ⟨hj, -, hempty⟩
    · rw [hsame]
      exact h.history key i hi
    · rw [hempty, List.eq_nil_iff_forall_not_mem.mpr (hnew hj)]
      simp

theorem Fits.refuse (h : b.Fits t) (hn : b.phase n = .waiting) : (b.set n .refused).Fits t := by
  have hnone : (b.phase n).serial? = none := by rw [hn]; rfl
  have hphase (m : Nat) : ((b.set n .refused).phase m).held? = (b.phase m).held? := by
    by_cases hm : m = n
    · rw [hm, set_phase_self, hn]
      rfl
    · rw [set_phase_of_ne hm]
  refine ⟨h.toOrdered.set hnone.symm (by rintro y ⟨⟩), ⟨?held, ?holder⟩, ⟨h.owner, ?history⟩,
    h.sound⟩
  case held => exact fun m serial c hm => h.held m serial c ((hphase m) ▸ hm)
  case holder =>
    intro key i hi hb
    obtain ⟨m, c, hm⟩ := h.holder key i hi hb
    exact ⟨m, c, (hphase m).trans hm⟩
  case history =>
    intro key i hi
    rw [h.history key i hi]
    exact congrArg _ (flatMap_turns_set (h.not_mem hnone i.serial)).symm

/-! ## Getting an instance -/

section Serve

variable {key : InstanceKey} {text : String} {i : Instance}

/-- The table in which an instance is locked. -/
abbrev locked (t : Instances) (serial : Nat) : Instances :=
  t.update serial fun i => { i with busy := true }

private theorem get?_locked_self (hi : t.get? key = some i) :
    (locked t i.serial).get? key = some { i with busy := true } :=
  Instances.get?_update_self (fun _ => by rfl) hi

private theorem get?_locked_of_ne (hi : t.get? key = some i) (h : i.serial ≠ serial) :
    (locked t serial).get? key = some i :=
  Instances.get?_update_of_serial_ne (fun _ => by rfl) hi h

private theorem exists_of_get?_locked {k : InstanceKey} {j : Instance}
    (h : (locked t serial).get? k = some j) : ∃ j', t.get? k = some j' ∧ j.serial = j'.serial ∧
      j.conversation = j'.conversation ∧ (j'.serial = serial ∨ j = j') := by
  obtain ⟨j', hj', hserial, ⟨heq, rfl⟩ | ⟨-, rfl⟩⟩ :=
    Instances.exists_of_get?_update (fun _ => by rfl) (fun _ => by rfl) h
  · exact ⟨j', hj', hserial, rfl, .inl heq⟩
  · exact ⟨j, hj', rfl, rfl, .inr rfl⟩

private theorem Fits.serve_holds (h : b.Fits t) (habout : b.about n = some (key, text))
    (hn : b.phase n = .waiting) (hi : t.get? key = some i) (hfree : i.busy = false) :
    (b.serve n i.serial i.conversation).Holds (locked t i.serial) := by
  have hne {m : Nat} {y : Nat × Conversation} (hm : (b.phase m).held? = some y) : m ≠ n := by
    rintro rfl
    rw [hn] at hm
    cases hm
  constructor
  case held =>
    intro m serial c hm
    by_cases hmn : m = n
    · rw [hmn, serve_phase_self] at hm
      cases hm
      rw [hmn]
      exact ⟨key, text, _, habout, get?_locked_self hi, rfl, rfl, rfl⟩
    · rw [serve_phase_of_ne hmn] at hm
      obtain ⟨key', text', j, habout', hj, rfl, hb, rfl⟩ := h.held m serial c hm
      -- the one that was free is nobody else's
      have hserial : j.serial ≠ i.serial := fun heq => h.free hi hfree m _ (heq ▸ hm)
      exact ⟨key', text', j, habout', get?_locked_of_ne hj hserial, rfl, hb, rfl⟩
  case holder =>
    intro key' j hj hb
    obtain ⟨j', hj', hserial, -, heq | rfl⟩ := exists_of_get?_locked hj
    · exact ⟨n, i.conversation, by rw [serve_phase_self, hserial, heq]; rfl⟩
    · obtain ⟨m, c, hm⟩ := h.holder key' j hj' hb
      exact ⟨m, c, by rw [serve_phase_of_ne (hne hm), hm]⟩

private theorem Fits.serve_remembers (h : b.Fits t) (habout : b.about n = some (key, text))
    (hn : b.phase n = .waiting) (hi : t.get? key = some i) :
    (b.serve n i.serial i.conversation).Remembers (locked t i.serial) := by
  have hnone : (b.phase n).serial? = none := by rw [hn]; rfl
  constructor
  case owner =>
    intro k j m hj hm
    obtain ⟨j', hj', hserial, -, -⟩ := exists_of_get?_locked hj
    rw [hserial] at hm
    rcases mem_serve_served.mp hm with hm | ⟨rfl, heq⟩
    · exact h.owner k j' m hj' hm
    · rw [← Instances.key_of_get? hj', h.sound.eq_of_serial hj' hi heq, Instances.key_of_get? hi]
      exact ⟨text, habout⟩
  case history =>
    intro k j hj
    obtain ⟨j', hj', hserial, hconversation, -⟩ := exists_of_get?_locked hj
    rw [hserial, hconversation, h.history k j' hj']
    congr 1
    by_cases heq : j'.serial = i.serial
    · rw [heq, serve_served_self, List.flatMap_append, List.flatMap_singleton, turns_serve_self,
        List.append_nil, flatMap_turns_serve (h.not_mem hnone i.serial)]
    · rw [serve_served_of_ne heq, flatMap_turns_serve (h.not_mem hnone j'.serial)]

theorem Fits.serve (h : b.Fits t) (hn : b.phase n = .waiting)
    (habout : b.about n = some (key, text)) (hi : t.get? key = some i) (hfree : i.busy = false) :
    (b.serve n i.serial i.conversation).Fits (locked t i.serial) where
  toOrdered := h.toOrdered.serve hn (h.sound.below i (Instances.mem_of_get? hi)) (h.free hi hfree)
  toHolds := h.serve_holds habout hn hi hfree
  toRemembers := h.serve_remembers habout hn hi
  sound := h.sound.update _ (fun _ => rfl) (fun _ => rfl) fun j hj _ => h.sound.limit j hj

end Serve

/-! ## Turns -/

section Speak

variable {key : InstanceKey} {text : String} {i : Instance} {message : Model.Message}
  {c' : Conversation} {f : Instance → Instance}

/-- A message that has an instance keeps a turn there by a change of the instance, and has the
instance in its next phase exactly if it stays locked. -/
structure Speaks (b : Standings) (n serial : Nat) (c : Conversation) (text : String)
    (message : Model.Message) (c' : Conversation) (f : Instance → Instance) (x : Phase) : Prop where
  has : (b.phase n).held? = some (serial, c)
  changes : ∀ i, (f i).key = i.key ∧ (f i).serial = i.serial ∧ (f i).conversation = c'
  pushes : c'.history = c.history.push message
  had : x.serial? = some serial
  locks : ∀ i, i.busy = true → ((f i).busy = true ↔ x.held? = some (serial, c'))
  keeps : ∀ y, x.held? = some y → y = (serial, c')
  adds : x.turns text = (b.phase n).turns text ++ [message]

private theorem Fits.of_has (h : b.Fits t) (habout : b.about n = some (key, text))
    (hn : (b.phase n).held? = some (serial, c)) : ∃ i, t.get? key = some i ∧ i.serial = serial ∧
      i.busy = true ∧ i.conversation = c ∧
        ∀ k j, t.get? k = some j → j.serial = serial → j = i := by
  obtain ⟨key', text', i, habout', hi, rfl, hb, rfl⟩ := h.held n serial c hn
  rw [habout] at habout'
  cases habout'
  exact ⟨i, hi, rfl, hb, rfl, fun k j hj heq => h.sound.eq_of_serial hj hi heq⟩

private theorem Fits.speak_holds (h : b.Fits t) (habout : b.about n = some (key, text))
    (hs : b.Speaks n serial c text message c' f x) : (b.set n x).Holds (t.update serial f) := by
  obtain ⟨i, hi, rfl, hib, rfl, hunique⟩ := h.of_has habout hs.has
  have hkey (j : Instance) := (hs.changes j).1
  constructor
  case held =>
    intro m k d hm
    by_cases hmn : m = n
    · rw [hmn, set_phase_self] at hm
      cases hs.keeps _ hm
      rw [hmn]
      exact ⟨key, text, f i, habout, Instances.get?_update_self hkey hi, (hs.changes i).2.1,
        (hs.locks i hib).mpr hm, (hs.changes i).2.2⟩
    · rw [set_phase_of_ne hmn] at hm
      obtain ⟨key', text', j, habout', hj, rfl, hb, rfl⟩ := h.held m k d hm
      have hserial : j.serial ≠ i.serial := fun heq => hmn (h.eq_of_held (heq ▸ hm) hs.has)
      have hget := Instances.get?_update_of_serial_ne hkey hj hserial
      exact ⟨key', text', j, habout', hget, rfl, hb, rfl⟩
  case holder =>
    intro key' j hj hb
    obtain ⟨j', hj', hserial, ⟨heq, rfl⟩ | ⟨hne, rfl⟩⟩ :=
      Instances.exists_of_get?_update hkey (fun j => (hs.changes j).2.1) hj
    · cases hunique key' j' hj' heq
      exact ⟨n, c', by rw [set_phase_self, hserial, (hs.locks _ hib).mp hb]⟩
    · obtain ⟨m, d, hm⟩ := h.holder key' j hj' hb
      have hmn : m ≠ n := by
        rintro rfl
        rw [hs.has] at hm
        exact hne (congrArg Prod.fst (Option.some.inj hm)).symm
      exact ⟨m, d, by rw [set_phase_of_ne hmn, hm]⟩

private theorem Fits.flatMap_speak (h : b.Fits t) (habout : b.about n = some (key, text))
    (hs : b.Speaks n serial c text message c' f x) :
    (b.served serial).flatMap (b.set n x).turns =
      (b.served serial).flatMap b.turns ++ [message] := by
  -- who has the instance got it last and only once, so nobody else's turns come after or change
  obtain ⟨before, hserved⟩ := List.getLast?_eq_some_iff.mp (h.last n serial c hs.has)
  have honce := h.once serial
  rw [hserved] at honce
  have hnot : n ∉ before := fun hmem =>
    (List.disjoint_of_nodup_append honce) hmem (List.mem_singleton.mpr rfl)
  have hturns : (b.set n x).turns n = b.turns n ++ [message] := by
    simp [turns, set, habout, hs.adds]
  rw [hserved, List.flatMap_append, List.flatMap_append, List.flatMap_singleton,
    List.flatMap_singleton, hturns, flatMap_turns_set hnot, List.append_assoc]

private theorem Fits.speak_remembers (h : b.Fits t) (habout : b.about n = some (key, text))
    (hs : b.Speaks n serial c text message c' f x) : (b.set n x).Remembers (t.update serial f) := by
  obtain ⟨i, hi, rfl, -, rfl, hunique⟩ := h.of_has habout hs.has
  have hbefore {k : InstanceKey} {j : Instance} (hj : (t.update i.serial f).get? k = some j) :=
    Instances.exists_of_get?_update (fun j => (hs.changes j).1) (fun j => (hs.changes j).2.1) hj
  constructor
  case owner =>
    intro k j m hj hm
    obtain ⟨j', hj', hserial, -⟩ := hbefore hj
    rw [hserial] at hm
    exact h.owner k j' m hj' hm
  case history =>
    intro k j hj
    obtain ⟨j', hj', hserial, ⟨heq, rfl⟩ | ⟨hne, rfl⟩⟩ := hbefore hj
    · cases hunique k j' hj' heq
      have hlimit : 0 < i.conversation.history.limit := by
        rw [h.sound.limit i (Instances.mem_of_get? hi)]
        exact Nat.lt_of_lt_of_le Nat.one_pos (Nat.le_max_right _ _)
      rw [(hs.changes i).2.2, hserial, hs.pushes]
      change (i.conversation.history.push message).turns =
        latest i.conversation.history.limit ((b.served i.serial).flatMap _)
      rw [h.flatMap_speak habout hs]
      exact History.push_turns hlimit (h.history key i hi) message
    · have hnot : n ∉ b.served j.serial := by
        rw [h.got, Phase.serial?_of_held hs.has]
        exact fun heq => hne (Option.some.inj heq).symm
      rw [h.history k j hj']
      exact congrArg _ (flatMap_turns_set hnot).symm

/-- The message that has an instance keeps a turn there, and may give it back. -/
theorem Fits.speak (h : b.Fits t) (habout : b.about n = some (key, text))
    (hs : b.Speaks n serial c text message c' f x) : (b.set n x).Fits (t.update serial f) where
  toOrdered := h.toOrdered.set (hs.had.trans (Phase.serial?_of_held hs.has).symm) fun y hy => by
    rw [hs.keeps y hy]
    exact ⟨c, hs.has⟩
  toHolds := h.speak_holds habout hs
  toRemembers := h.speak_remembers habout hs
  sound := by
    obtain ⟨i, hi, rfl, -, rfl, hunique⟩ := h.of_has habout hs.has
    refine h.sound.update _ (fun j => (hs.changes j).1) (fun j => (hs.changes j).2.1) ?_
    intro j hj heq
    cases hunique _ j (h.sound.get?_of_mem hj) heq
    rw [(hs.changes i).2.2, hs.pushes]
    exact h.sound.limit i hj

end Speak

/-! ## Beginning -/

/-- It does not matter what messages are about that have not begun. -/
theorem Fits.about (h : b.Fits t) {about : Nat → Option (InstanceKey × String)}
    (habout : ∀ n, b.phase n ≠ .waiting → about n = b.about n) : Fits { b with about } t := by
  have hheld {n : Nat} {y : Nat × Conversation} (hn : (b.phase n).held? = some y) :
      about n = b.about n := habout n (by rintro heq; rw [heq] at hn; cases hn)
  have hserved {n serial : Nat} (hn : n ∈ b.served serial) : about n = b.about n :=
    habout n (by rintro heq; rw [h.got, heq] at hn; cases hn)
  refine ⟨⟨h.last, h.once, h.got, h.below⟩, ⟨?held, h.holder⟩, ⟨?owner, ?history⟩, h.sound⟩
  case held =>
    intro n serial c hn
    obtain ⟨key, text, i, ha, hi⟩ := h.held n serial c hn
    exact ⟨key, text, i, (hheld hn).trans ha, hi⟩
  case owner =>
    intro key i n hi hn
    obtain ⟨text, ha⟩ := h.owner key i n hi hn
    exact ⟨text, (hserved hn).trans ha⟩
  case history =>
    intro key i hi
    rw [h.history key i hi]
    congr 1
    refine List.flatMap_congr fun n hn => ?_
    simp only [turns, hserved hn]

theorem fits_of_live (hphase : ∀ n, b.phase n = .waiting) (hserved : ∀ serial, b.served serial = [])
    (hlive : t.live = []) : b.Fits t := by
  have hnone (k : InstanceKey) (i : Instance) : t.get? k ≠ some i := by
    simp [Instances.get?, hlive]
  have hheld (n : Nat) (y : Nat × Conversation) : (b.phase n).held? ≠ some y := by
    simp [hphase, Phase.held?]
  refine ⟨⟨fun n serial c hn => absurd hn (hheld n _), ?_, ?_, ?_⟩,
    ⟨fun n serial c hn => absurd hn (hheld n _), fun k i hi => absurd hi (hnone k i)⟩,
    ⟨fun k i n hi => absurd hi (hnone k i), fun k i hi => absurd hi (hnone k i)⟩, ?_⟩
  · simp [hserved]
  · simp [hserved, hphase, Phase.serial?]
  · simp [hserved]
  · constructor <;> simp [hlive]

end Standings

end Automation.Session
