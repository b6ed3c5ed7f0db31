import Automation.Proofs.Session.Surroundings
import Automation.Repository.Memory

/-!
# Sessions apart

Messages to other keys can be left out: without them the messages of a key are answered as they are
among them, but for ids. Its instance is the same too, unless a message to another key has removed
it after it was idle for too long; then the next message of the key would not have found it in any
case.
-/

namespace Automation.Session

open Interleaving (Move Course)
open Service (AlikeServing SameReply)
open Instances (Seen)

variable {ρ : Type} {s : Service} {others : Surroundings ρ}

/-! ## Messages that have arrived -/

/-- Messages side by side; no other calls come. -/
abbrev messages (s : Service) (others : Surroundings ρ) :
    Interleaving Call (Shared ρ) Request Request.Answer (Option Response) :=
  sessions s others fun _ => False

/-- Messages with their keys that have arrived and of which none has begun. -/
def arrived (s : Service) (calls : List (InstanceKey × String)) (sh : Shared ρ) : State ρ :=
  ⟨calls.map fun m => ⟨.send m.1 m.2, [], Call.process s (.send m.1 m.2)⟩, sh⟩

/-- What is known of messages that have gone on for a while. -/
structure Underway (s : Service) (calls : List (InstanceKey × String)) (log : List Event)
    (t : State ρ) : Prop where
  tasks : t.parties.map (·.task) = calls.map fun m => .send m.1 m.2
  course : ∀ p ∈ t.parties, Process.Course (p.task.process s) p.past p.rest
  fits : (standings t.parties log).Fits t.shared.table

section Underway

variable {calls : List (InstanceKey × String)} {log : List Event} {sh₀ : Shared ρ} {t u : State ρ}
  {n : Nat} {key : InstanceKey} {text : String} {e : Exchange Request Request.Answer}

private theorem tasks_of_course (h : Course (messages s others) (arrived s calls sh₀) log t) :
    t.parties.map (·.task) = calls.map fun m => .send m.1 m.2 := by
  induction h with
  | stay => simp [arrived]
  | move _ m ih =>
    cases m with
    | join hfalse => exact hfalse.elim
    | @answer ps _ _ n task past r next a hp _ =>
      obtain ⟨hn, hget⟩ := List.getElem?_eq_some_iff.mp hp
      have hn' : n < (ps.map (·.task)).length := by simpa using hn
      have htask : task = (ps.map (·.task))[n] := by simp [hget]
      rw [newcomers_sessions, List.append_nil, ← ih, List.map_set, htask, List.set_getElem_self]

private theorem underway_of_course (h : Course (messages s others) (arrived s calls sh₀) log t)
    (hlive : sh₀.table.live = []) : Underway s calls log t := by
  have hnew : ∀ p ∈ (arrived s calls sh₀).parties, p.past = [] := by
    intro p hp
    obtain ⟨m, -, rfl⟩ := List.mem_map.mp hp
    rfl
  have hprocess : ∀ p ∈ (arrived s calls sh₀).parties, p.rest = p.task.process s := by
    intro p hp
    obtain ⟨m, -, rfl⟩ := List.mem_map.mp hp
    rfl
  obtain ⟨hcourse, hfits⟩ := fits_of_course hnew hprocess h hlive
  exact ⟨tasks_of_course h, hcourse, hfits⟩

private theorem Underway.exists_call (h : Underway s calls log t) {p : Caller}
    (hp : t.parties[n]? = some p) :
    ∃ key text, calls[n]? = some (key, text) ∧ p.task = .send key text := by
  have htask : (calls.map fun m => Call.send m.1 m.2)[n]? = some p.task := by
    rw [← h.tasks]
    simp [hp]
  rw [List.getElem?_map, Option.map_eq_some_iff] at htask
  obtain ⟨⟨key, text⟩, hn, htask⟩ := htask
  exact ⟨key, text, hn, htask.symm⟩

private theorem concerns_of_not_table {r : ServiceRequest} {table : Instances}
    (h : r.isOfTable = false) : Concerns key table r := by
  cases r <;> first | exact h | cases h

private theorem Underway.concerns (h : Underway s calls log t) {p : Caller} {r : ServiceRequest}
    (hp : t.parties[n]? = some p) (htask : p.task = .send key text)
    (hr : (phase p).Allows key text r) : Concerns key t.shared.table r := by
  have hkept {serial : Nat} {c : Conversation} (hheld : (phase p).held? = some (serial, c)) :
      ∃ i, t.shared.table.get? key = some i ∧ i.serial = serial := by
    obtain ⟨i, hi, hserial, -⟩ := kept_of_fits h.fits ⟨p, text, c, hp, htask, hheld⟩
    exact ⟨i, hi, hserial⟩
  cases hphase : phase p with
  | waiting =>
    rw [hphase] at hr
    obtain rfl : r = .beginTurn key := hr
    rfl
  | begun serial c =>
    rw [hphase] at hr
    obtain rfl : r = .keepTurn serial { c with history := c.history.pushUser text } := hr
    exact hkept (by rw [hphase]; rfl)
  | asked serial c =>
    rw [hphase] at hr
    rcases Phase.allows_asked hr with ⟨c', message, rfl, -⟩ | hr
    · exact hkept (by rw [hphase]; rfl)
    · exact concerns_of_not_table hr
  | answered serial answer =>
    rw [hphase] at hr
    obtain ⟨turn, rfl⟩ := hr
    rfl
  | refused =>
    rw [hphase] at hr
    exact hr.elim

private theorem Underway.exists_timed (h : Underway s calls log t) {p : Caller}
    (hp : t.parties[n]? = some p) (htask : p.task = .send key text) :
    ∃ q, p.rest = timed q := by
  have hc := h.course p (List.mem_of_getElem? hp)
  rw [htask] at hc
  obtain ⟨q, hq, -⟩ := course_timed hc
  exact ⟨q, hq⟩

private theorem Underway.of_move (h : Underway s calls log t)
    (hm : Move (messages s others) t [(n, e)] u) :
    ∃ p r next now a key text, t.parties[n]? = some p ∧ calls[n]? = some (key, text) ∧
      p.rest = timed (.ask r next) ∧ e = ⟨.service r, (now, a)⟩ ∧ Concerns key t.shared.table r ∧
      t.shared.clock.toMillis ≤ now.toMillis ∧ u.shared.clock = now ∧
      t.shared.serves others now r a u.shared ∧
      u.parties[n]? = some ⟨p.task, p.past ++ [e], timed (next a)⟩ ∧
      ∀ m, n ≠ m → u.parties[m]? = t.parties[m]? := by
  obtain ⟨p, next, hp, hrest, ha, hparties, hmoved⟩ := hm.of_event
  rw [newcomers_sessions, List.append_nil] at hparties
  obtain ⟨key, text, hn, htask⟩ := h.exists_call hp
  obtain ⟨q, hq⟩ := h.exists_timed hp htask
  have hasked : Asked p e.request := asked_of_course (hrest ▸ h.course p (List.mem_of_getElem? hp))
  obtain ⟨r, x⟩ := e
  obtain ⟨r, next', rfl, rfl⟩ := ask_of_timed (hq.symm.trans hrest)
  obtain ⟨now, a⟩ := x
  simp only [Asked, htask] at hasked
  obtain ⟨r', hr', hallows⟩ := hasked
  cases hr'
  have hnext : next = fun x => timed (next' x.2) := by
    rw [hq] at hrest
    cases hrest
    rfl
  refine ⟨p, r, next', now, a, key, text, hp, hn, hq, rfl, h.concerns hp htask hallows, ha.1,
    ha.2.1, ha.2.2, ?_, fun m hmn => ?_⟩
  · rw [hmoved, hnext]
  · rw [hparties, List.getElem?_set_ne hmn]

end Underway

/-! ## Two runs -/

/-- In both runs the message with this number goes on alike, and finds the workflows it stored. -/
def Level (stored : ρ → Id → Prop) (t t' : State ρ) (n : Nat) : Prop :=
  ∃ (p p' : Caller) (q q' : Serving Response) (x : Option (Id × Id)),
    t.parties[n]? = some p ∧ t'.parties[n]? = some p' ∧ p.rest = timed q ∧ p'.rest = timed q' ∧
    AlikeServing SameReply x q q' ∧
      ∀ z ∈ x, stored t.shared.around z.1 ∧ stored t'.shared.around z.2

/-- In two runs the messages of a key have come equally far, go on alike and find the same. -/
structure Apart (stored : ρ → Id → Prop) (calls : List (InstanceKey × String)) (key : InstanceKey)
    (t t' : State ρ) : Prop where
  clock : t'.shared.clock.toMillis ≤ t.shared.clock.toMillis
  table : Seen key t.shared.clock t.shared.table t'.shared.table
  pairs : ∀ (n : Nat) (text : String), calls[n]? = some (key, text) → Level stored t t' n

section Apart

variable {model : Model.Prompt → Model.Answer} {drive : Drive} {stored : ρ → Id → Prop}
  {calls : List (InstanceKey × String)} {key : InstanceKey} {log log' : List Event}
  {sh₀ : Shared ρ} {t t' u u' : State ρ} {n : Nat} {e e' : Exchange Request Request.Answer}

private theorem Level.of_others (h : Level stored t t' n) (hp : u.parties[n]? = t.parties[n]?)
    (hp' : u'.parties[n]? = t'.parties[n]?)
    (hkept : ∀ id, stored t.shared.around id → stored u.shared.around id)
    (hkept' : ∀ id, stored t'.shared.around id → stored u'.shared.around id) :
    Level stored u u' n := by
  obtain ⟨p, p', q, q', x, ht, ht', hq, hq', halike, hx⟩ := h
  exact ⟨p, p', q, q', x, hp.trans ht, hp'.trans ht', hq, hq', halike,
    fun z hz => ⟨hkept _ (hx z hz).1, hkept' _ (hx z hz).2⟩⟩

private theorem apart_refl (stored : ρ → Id → Prop) (s : Service)
    (calls : List (InstanceKey × String)) (key : InstanceKey) (sh : Shared ρ) :
    Apart stored calls key (arrived s calls sh) (arrived s calls sh) := by
  refine ⟨Int.le_refl _, .refl _ _ _, fun n text hn => ?_⟩
  have hp : (arrived s calls sh).parties[n]? =
      some ⟨.send key text, [], timed (s.send key text)⟩ := by
    simp only [arrived, List.getElem?_map, hn]
    rfl
  exact ⟨_, _, _, _, none, hp, hp, rfl, rfl, s.send_alike key text, by rintro z ⟨⟩⟩

/-- A move of a message to another key changes nothing for those of the key. -/
theorem Apart.other (h : Apart stored calls key t t') (hsteady : Steady others model drive stored)
    (ht : Underway s calls log t) (hm : Move (messages s others) t [(n, e)] u)
    (hn : ∀ text, calls[n]? ≠ some (key, text)) : Apart stored calls key u t' := by
  obtain ⟨p, r, next, now, a, key', text, hp, hcall, -, -, hr, hclock, hnow, ha, -, hothers⟩ :=
    ht.of_move hm
  have hne : key ≠ key' := by
    rintro rfl
    exact hn text hcall
  constructor
  case clock =>
    rw [hnow]
    exact Int.le_trans h.clock hclock
  case table =>
    rw [hnow]
    exact seen_of_other h.table ht.fits.sound hne hr hclock ha
  case pairs =>
    intro m text' hcall'
    have hmn : n ≠ m := by
      rintro rfl
      exact hn text' hcall'
    exact (h.pairs m text' hcall').of_others (hothers m hmn) rfl
      (fun _ => stored_of_serves hsteady ha) (fun _ => id)

/-- If a message of the key moves in both runs at one time, the runs stay apart. -/
theorem Apart.own (h : Apart stored calls key t t') (hsteady : Steady others model drive stored)
    (ht : Underway s calls log t) (ht' : Underway s calls log' t')
    (hm : Move (messages s others) t [(n, e)] u) (hm' : Move (messages s others) t' [(n, e')] u')
    (htime : Dealing.time e' = Dealing.time e) {text : String}
    (hn : calls[n]? = some (key, text)) : Apart stored calls key u u' := by
  obtain ⟨p, r, next, now, a, key₁, text₁, hp, hcall, hrest, rfl, hr, hclock, hnow, ha, hmoved,
    hothers⟩ := ht.of_move hm
  obtain ⟨p', r', next', now', a', key₂, text₂, hp', hcall', hrest', rfl, hr', -, hnow', ha',
    hmoved', hothers'⟩ := ht'.of_move hm'
  obtain rfl : now' = now := htime
  rw [hn] at hcall hcall'
  cases hcall
  cases hcall'
  obtain ⟨p₁, p₁', q, q', x, hp₁, hp₁', hq, hq', halike, hx⟩ := h.pairs n text hn
  rw [hp] at hp₁
  rw [hp'] at hp₁'
  cases hp₁
  cases hp₁'
  -- what is left of the message in either run is what it asks there and how it goes on
  obtain rfl := timed_injective (hq.symm.trans hrest)
  obtain rfl := timed_injective (hq'.symm.trans hrest')
  cases halike with
  | ask hc hnext =>
    obtain ⟨hsame, htable, hy⟩ := same_of_counterpart hsteady hc h.table ht.fits.sound
      ht'.fits.sound hr hr' hclock hx ha ha'
    constructor
    case clock => exact Int.le_of_eq (by rw [hnow, hnow'])
    case table =>
      rw [hnow]
      exact htable
    case pairs =>
      intro m text' hcall
      by_cases hmn : n = m
      · subst hmn
        exact ⟨_, _, next a, next' a', _, hmoved, hmoved', rfl, rfl, hnext a a' hsame, hy⟩
      · exact (h.pairs m text' hcall).of_others (hothers m hmn) (hothers' m hmn)
          (fun _ => stored_of_serves hsteady ha) (fun _ => stored_of_serves hsteady ha')

private theorem Apart.exists_move (h : Apart stored calls key t t')
    (hsteady : Steady others model drive stored) (ht : Underway s calls log t)
    (hm : Move (messages s others) t [(n, e)] u) {text : String}
    (hn : calls[n]? = some (key, text)) :
    ∃ e' u', Move (messages s others) t' [(n, e')] u' ∧ Dealing.time e' = Dealing.time e := by
  obtain ⟨p, r, next, now, a, key₁, text₁, hp, hcall, hrest, rfl, hr, hclock, hnow, ha, -, -⟩ :=
    ht.of_move hm
  obtain ⟨p₁, p', q, q', x, hp₁, hp', hq, hq', halike, hx⟩ := h.pairs n text hn
  rw [hp] at hp₁
  cases hp₁
  obtain rfl := timed_injective (hq.symm.trans hrest)
  cases halike with
  | @ask _ y _ r' _ next' same hc hnext =>
    obtain ⟨a', w', ha', hclock'⟩ := exists_serves hsteady t'.shared now r'
    obtain ⟨task, past, rest⟩ := p'
    obtain rfl : rest = timed (.ask r' next') := hq'
    exact ⟨⟨.service r', (now, a')⟩, _,
      .answer hp' ⟨Int.le_trans h.clock hclock, hclock', ha'⟩, rfl⟩

/-- Who of the messages got on, and when. -/
def timeline (log : List Event) : List (Nat × Time.Instant) :=
  log.map fun e => (e.1, Dealing.time e.2)

/-- Whether the message with this number is to the key. -/
def isTo (calls : List (InstanceKey × String)) (key : InstanceKey) (n : Nat) : Bool :=
  calls[n]?.any fun m => m.1 = key

/-- The second run is the first one without the messages to other keys: those to the key get on in
the same order and at the same times. -/
def Purges (calls : List (InstanceKey × String)) (key : InstanceKey) (log log' : List Event) :
    Prop :=
  timeline log' = (timeline log).filter fun e => isTo calls key e.1

private theorem timeline_append (log log' : List Event) :
    timeline (log ++ log') = timeline log ++ timeline log' := List.map_append

private theorem isTo_eq_true {n : Nat} :
    isTo calls key n = true ↔ ∃ text, calls[n]? = some (key, text) := by
  unfold isTo
  cases h : calls[n]? with
  | none => simp
  | some m =>
    obtain ⟨k, text⟩ := m
    simp

private theorem purges_append_other {log log' : List Event} (hn : isTo calls key n = false) :
    Purges calls key (log ++ [(n, e)]) log' ↔ Purges calls key log log' := by
  simp [Purges, timeline, hn]

private theorem purges_append_own {log log' : List Event} (hn : isTo calls key n = true) :
    Purges calls key (log ++ [(n, e)]) log' ↔ ∃ before e', log' = before ++ [(n, e')] ∧
      Purges calls key log before ∧ Dealing.time e' = Dealing.time e := by
  have hfilter : (timeline (log ++ [(n, e)])).filter (fun e => isTo calls key e.1) =
      (timeline log).filter (fun e => isTo calls key e.1) ++ [(n, Dealing.time e)] := by
    simp [timeline, hn]
  rw [Purges, hfilter]
  constructor
  · intro h
    obtain ⟨before, last, rfl, hbefore, hlast⟩ := List.map_eq_append_iff.mp h
    obtain ⟨⟨m, e'⟩, rfl, he'⟩ := List.map_eq_singleton_iff.mp hlast
    obtain ⟨rfl, htime⟩ := Prod.mk.inj he'
    exact ⟨before, e', rfl, hbefore, htime⟩
  · rintro ⟨before, e', rfl, hbefore, htime⟩
    rw [timeline_append, hbefore]
    simp [timeline, htime]

private theorem exists_event {xs : List Event} (hm : Move (messages s others) t xs u) :
    ∃ n e, xs = [(n, e)] := by
  cases hm with
  | join hfalse => exact hfalse.elim
  | answer => exact ⟨_, _, rfl⟩

private theorem eq_of_course_nil (h : Course (messages s others) t [] u) : u = t := by
  generalize hlog : ([] : List Event) = log at h
  induction h with
  | stay => rfl
  | move _ m _ =>
    obtain ⟨n, e, rfl⟩ := exists_event m
    simp at hlog

/-- However the messages of the key get on without the others, the runs are apart. -/
theorem apart_of_courses (hsteady : Steady others model drive stored)
    (hlive : sh₀.table.live = []) (h : Course (messages s others) (arrived s calls sh₀) log t) :
    ∀ log' t', Course (messages s others) (arrived s calls sh₀) log' t' →
      Purges calls key log log' → Apart stored calls key t t' := by
  -- the induction is on the run of all; the run of the key is taken back one event when the last
  -- event of all is one of the key
  induction h with
  | stay =>
    intro log' t' h' hpurges
    obtain rfl : log' = [] := by simpa [Purges, timeline] using hpurges
    rw [eq_of_course_nil h']
    exact apart_refl stored s calls key sh₀
  | @move log new t u hc m ih =>
    intro log' t' h' hpurges
    have ht := underway_of_course hc hlive
    obtain ⟨n, e, rfl⟩ := exists_event m
    cases hto : isTo calls key n with
    | false =>
      refine (ih log' t' h' ((purges_append_other hto).mp hpurges)).other hsteady ht m ?_
      intro text hn
      rw [isTo_eq_true.mpr ⟨text, hn⟩] at hto
      cases hto
    | true =>
      obtain ⟨text, hn⟩ := isTo_eq_true.mp hto
      obtain ⟨before, e', rfl, hbefore, htime⟩ := (purges_append_own hto).mp hpurges
      obtain ⟨v, v', hv, hmove, hlast⟩ := h'.split
      rw [eq_of_course_nil hlast]
      exact (ih before v hv hbefore).own hsteady ht (underway_of_course hv hlive) m hmove htime hn

private theorem exists_purged (hsteady : Steady others model drive stored)
    (hlive : sh₀.table.live = []) (h : Course (messages s others) (arrived s calls sh₀) log t) :
    ∃ log' t', Course (messages s others) (arrived s calls sh₀) log' t' ∧
      Purges calls key log log' := by
  induction h with
  | stay => exact ⟨[], _, .stay, rfl⟩
  | @move log new t u hc m ih =>
    obtain ⟨log', t', h', hpurges⟩ := ih
    obtain ⟨n, e, rfl⟩ := exists_event m
    cases hto : isTo calls key n with
    | false => exact ⟨log', t', h', (purges_append_other hto).mpr hpurges⟩
    | true =>
      obtain ⟨text, hn⟩ := isTo_eq_true.mp hto
      -- so far the runs are apart, and what the key does next it can do here as well
      have hapart := apart_of_courses hsteady hlive hc log' t' h' hpurges
      obtain ⟨e', u', hmove, htime⟩ :=
        hapart.exists_move hsteady (underway_of_course hc hlive) m hn
      exact ⟨_, u', h'.move hmove, (purges_append_own hto).mpr ⟨log', e', rfl, hpurges, htime⟩⟩

end Apart

/-- The reply to the message with this number, if it has ended. -/
def reply? (t : State ρ) (n : Nat) : Option Response :=
  (t.parties[n]?).bind fun p =>
    match p.rest with
    | .done r => r
    | .ask _ _ => none

/-- What is the same for a key in two runs: the messages that have ended, with their replies but for
ids, and the instance but for its number. An instance that only the second run has may be removed,
and an access would not find it. -/
structure Isolated (calls : List (InstanceKey × String)) (key : InstanceKey) (t t' : State ρ) :
    Prop where
  replies : ∀ (n : Nat) (text : String), calls[n]? = some (key, text) →
    (reply? t' n).map Response.anonymous = (reply? t n).map Response.anonymous
  live : ∀ i, t.shared.table.get? key = some i → ∃ j, t'.shared.table.get? key = some j ∧ i.Copy j
  idle : t.shared.table.get? key = none → ∀ j, t'.shared.table.get? key = some j →
    t'.shared.table.evicts t.shared.clock j = true

private theorem Apart.isolated {stored : ρ → Id → Prop} {calls : List (InstanceKey × String)}
    {key : InstanceKey} {t t' : State ρ} (h : Apart stored calls key t t') :
    Isolated calls key t t' := by
  refine ⟨fun n text hn => ?_, h.table.live, h.table.idle⟩
  obtain ⟨p, p', q, q', x, hp, hp', hq, hq', halike, -⟩ := h.pairs n text hn
  cases halike with
  | done hsame => simpa [reply?, hp, hp', hq, hq', timed] using hsame.eq
  | ask => simp [reply?, hp, hp', hq, hq', timed]

/-- Sessions do not influence each other. Every run of messages can be cut down to the messages of
one key, which get on at the same times; and in whatever way that is done, they are answered in the
same way, and what is left of their conversation is the same. -/
theorem sessions_isolated {model : Model.Prompt → Model.Answer} {drive : Drive}
    {stored : ρ → Id → Prop} (hsteady : Steady others model drive stored) (s : Service)
    (calls : List (InstanceKey × String)) (key : InstanceKey) {sh₀ : Shared ρ}
    (hlive : sh₀.table.live = []) {log : List Event} {t : State ρ}
    (h : Course (messages s others) (arrived s calls sh₀) log t) :
    (∃ log' t', Course (messages s others) (arrived s calls sh₀) log' t' ∧
      Purges calls key log log') ∧
    ∀ log' t', Course (messages s others) (arrived s calls sh₀) log' t' →
      Purges calls key log log' → Isolated calls key t t' :=
  ⟨exists_purged hsteady hlive h, fun log' t' h' hpurges =>
    (apart_of_courses hsteady hlive h log' t' h' hpurges).isolated⟩

/-! ## A quiet hour

A message is answered, and more than an hour later one to another key comes, which removes the
instance. Without that one the instance would still be there. -/

namespace QuietHour

/-- Workflows are kept in memory and ids counted. A model answers nothing, and all drivers succeed.
-/
def reply : (r : ServiceRequest) → Memory × Nat → r.Answer × (Memory × Nat)
  | .freshId, (m, n) => (.generated n, (m, n + 1))
  | .complete _, w => (.ok "", w)
  | .dispatch e calls, w =>
    (calls.map (verdict (fun _ _ _ => some { success := true }) e), w)
  | .repository (.createTrigger t), (m, n) =>
    (.ok (), ({ m with triggers := m.triggers ++ [t] }, n))
  | .repository r, (m, n) => ((m.answer r).1, ((m.answer r).2, n))
  | .now, w => (⟨0, 0⟩, w)
  | .logTurn _ _, w | .release _, w | .launch _ _, w | .keepTurn _ _, w | .endTurn _ _, w => ((), w)
  | .clearInstances, w | .stopPolling, w => ((), w)
  | .claim _, w | .removeInstance _, w | .isPolling, w | .startPolling, w | .keepsPolling, w
  | .restPolling _, w => (false, w)
  | .claimed, w | .listInstances, w => ([], w)
  | .awaitRun _, w => (.error ⟨.zero, {}⟩, w)
  | .openInstance _ _, w => (.null, w)
  | .beginTurn _, w => (none, w)

/-- Whether a workflow is kept under the id. -/
def keeps (w : Memory × Nat) (id : Id) : Prop := (w.1.workflow? id).isSome = true

private theorem keeps_saveWorkflow {m : Memory} {agentId : String} {workflow : Workflow} {id : Id} :
    ((m.saveWorkflow agentId workflow).workflow? id).isSome = true ↔
      id = workflow.id ∨ (m.workflow? id).isSome = true := by
  simp only [Memory.workflow?, Memory.saveWorkflow, Option.isSome_map, List.find?_isSome,
    List.mem_append, List.mem_filter, List.mem_singleton, decide_eq_true_eq]
  constructor
  · rintro ⟨o, ⟨ho, -⟩ | rfl, rfl⟩
    · exact .inr ⟨o, ho, rfl⟩
    · exact .inl rfl
  · rintro (rfl | ⟨o, ho, rfl⟩)
    · exact ⟨_, .inr rfl, rfl⟩
    · by_cases heq : o.workflow.id = workflow.id
      · exact ⟨⟨agentId, workflow⟩, .inr rfl, heq.symm⟩
      · exact ⟨o, .inl ⟨ho, heq⟩, rfl⟩

private theorem workflows_written {m : Memory} {f : Trigger → Trigger} {id : Id} :
    (m.written (m.updateTrigger id f)).2.workflows = m.workflows := by
  unfold Memory.updateTrigger
  split <;> rfl

private theorem keeps_reply {r : ServiceRequest} {w : Memory × Nat} {id : Id} (h : keeps w id) :
    keeps (reply r w).2 id := by
  cases r with
  | repository r =>
    cases r with
    | saveWorkflow agentId workflow => exact keeps_saveWorkflow.mpr (.inr h)
    | stampTrigger | setStatus =>
      unfold keeps Memory.workflow?
      dsimp only [reply, Memory.answer]
      rw [workflows_written]
      exact h
    | _ => exact h
  | _ => exact h

private theorem steady : Steady (fun w _ r a w' => (a, w') = reply r w) (fun _ => .ok "")
    (fun _ _ _ => some { success := true }) keeps := by
  constructor
  case answers => exact fun w now r => ⟨_, _, rfl⟩
  case complete => exact fun h => congrArg Prod.fst h
  case dispatch => exact fun h => congrArg Prod.fst h
  case saves =>
    intro w now agentId workflow a w' h
    obtain ⟨rfl, rfl⟩ := Prod.mk.inj h
    exact ⟨rfl, keeps_saveWorkflow.mpr (.inl rfl)⟩
  case finds =>
    intro w now id a w' hid h
    obtain ⟨rfl, -⟩ := Prod.mk.inj h
    obtain ⟨workflow, hworkflow⟩ := Option.isSome_iff_exists.mp hid
    exact ⟨workflow, congrArg Except.ok hworkflow⟩
  case registers => exact fun h => congrArg Prod.fst h
  case keeps =>
    intro w now r a w' id h hid
    obtain ⟨-, rfl⟩ := Prod.mk.inj h
    exact keeps_reply hid

/-- The key of the first message. -/
def first : InstanceKey := ⟨"a", "1"⟩

/-- The key of the other message. -/
def later : InstanceKey := ⟨"b", "1"⟩

def calls : List (InstanceKey × String) := [(first, "cancel"), (later, "hello")]

/-- The conversation before the message, with the message, and with the answer. -/
def before : Conversation := { history := History.empty 50 }

def asked : Conversation := { before with history := before.history.pushUser "cancel" }

def answered : Conversation :=
  { asked with history := asked.history.pushAssistant "There's nothing to cancel." }

/-- The table without instances, and after the turns. -/
def table : Instances :=
  { ttlMs := 3600000, sweepIntervalMs := 300000, historyLimit := 50, lastSweep := 0 }

def closed : Instances :=
  (((table.beginTurn first ⟨0, 0⟩).2.store 0 asked).finish 0 answered ⟨0, 0⟩)

def swept : Instances := (closed.beginTurn later ⟨4000, 0⟩).2

abbrev run : Interleaving Call (Shared (Memory × Nat)) Request Request.Answer (Option Response) :=
  messages Service.board fun w _ r a w' => (a, w') = reply r w

abbrev start : Shared (Memory × Nat) := ⟨⟨0, 0⟩, table, ({}, 0)⟩

/-- What the first message asks. -/
def log : List Event :=
  [(0, ⟨.service (.beginTurn first), (⟨0, 0⟩, some (0, before))⟩),
    (0, ⟨.service (.keepTurn 0 asked), (⟨0, 0⟩, ())⟩),
    (0, ⟨.service (.endTurn 0 answered), (⟨0, 0⟩, ())⟩)]

private theorem reaches_closed : ∃ ps, Course run (arrived Service.board calls start) log
      ⟨ps, ⟨0, 0⟩, closed, ({}, 0)⟩ ∧
    ∃ next, ps[1]? = some ⟨.send later "hello", [], .ask (.service (.beginTurn later)) next⟩ := by
  have hfirst : Service.checkKey first = none := by decide +kernel
  have hlater : Service.checkKey later = none := by decide +kernel
  have htext : Text.isBlankText "cancel" = false := by decide +kernel
  have hhello : Text.isBlankText "hello" = false := by decide +kernel
  have hcancel : Reply.isCancel (Text.trim "cancel") = true := by decide +kernel
  obtain ⟨next, hsend, hnext⟩ := send_process Service.board hfirst htext
  obtain ⟨other, hother, -⟩ := send_process Service.board hlater hhello
  have hstart : arrived Service.board calls start =
      ⟨[⟨.send first "cancel", [], .ask (.service (.beginTurn first)) next⟩,
        ⟨.send later "hello", [], .ask (.service (.beginTurn later)) other⟩], start⟩ := by
    rw [← hsend, ← hother]
    rfl
  have hbegin : run.answers start (.service (.beginTurn first)) (⟨0, 0⟩, some (0, before))
      ⟨⟨0, 0⟩, (table.beginTurn first ⟨0, 0⟩).2, ({}, 0)⟩ := ⟨Int.le_refl _, rfl, rfl, rfl, rfl⟩
  have hkeep : run.answers ⟨⟨0, 0⟩, (table.beginTurn first ⟨0, 0⟩).2, ({}, 0)⟩
      (.service (.keepTurn 0 asked)) (⟨0, 0⟩, ())
      ⟨⟨0, 0⟩, (table.beginTurn first ⟨0, 0⟩).2.store 0 asked, ({}, 0)⟩ :=
    ⟨Int.le_refl _, rfl, rfl, rfl, rfl⟩
  have hend : run.answers ⟨⟨0, 0⟩, (table.beginTurn first ⟨0, 0⟩).2.store 0 asked, ({}, 0)⟩
      (.service (.endTurn 0 answered)) (⟨0, 0⟩, ()) ⟨⟨0, 0⟩, closed, ({}, 0)⟩ :=
    ⟨Int.le_refl _, rfl, rfl, rfl, rfl⟩
  obtain ⟨rest, hrest⟩ : ∃ rest, next (⟨0, 0⟩, some (0, before)) =
      .ask (.service (.keepTurn 0 asked)) fun _ => .ask (.service (.endTurn 0 answered)) rest :=
    ⟨_, (hnext _ _ _).trans (handle_cancel Service.board first 0 before hcancel)⟩
  have arrives : Course run (arrived Service.board calls start) [] _ := .stay
  rw [hstart] at arrives
  have begun := arrives.move (.answer (n := 0) rfl hbegin)
  rw [← hstart, hrest] at begun
  exact ⟨_, (begun.move (.answer (n := 0) rfl hkeep)).move (.answer (n := 0) rfl hend), other, rfl⟩

private theorem reaches_swept :
    ∃ e ps, Course run (arrived Service.board calls start) (log ++ [(1, e)])
    ⟨ps, ⟨4000, 0⟩, swept, ({}, 0)⟩ := by
  obtain ⟨ps, hcourse, next, hother⟩ := reaches_closed
  have hbegin : run.answers ⟨⟨0, 0⟩, closed, ({}, 0)⟩ (.service (.beginTurn later))
      (⟨4000, 0⟩, _) ⟨⟨4000, 0⟩, swept, ({}, 0)⟩ := ⟨by decide, rfl, rfl, rfl, rfl⟩
  exact ⟨_, _, hcourse.move (.answer (n := 1) hother hbegin)⟩

end QuietHour

open QuietHour

/-- Without the other message the history would still be there. -/
theorem removes_history_quietHour : ∃ log log' t t',
    Course run (arrived Service.board calls start) log t ∧
      Course run (arrived Service.board calls start) log' t' ∧ Purges calls first log log' ∧
      (t.shared.table.get? first).isNone = true ∧
      (t'.shared.table.get? first).map (·.conversation.history.turns.length) = some 2 := by
  obtain ⟨ps, hclosed, -⟩ := reaches_closed
  obtain ⟨e, ps', hswept⟩ := reaches_swept
  have hother : isTo calls first 1 = false := by decide +kernel
  have hgone : (swept.get? first).isNone = true := by decide +kernel
  have hthere : (closed.get? first).map (·.conversation.history.turns.length) = some 2 := by
    decide +kernel
  have hsame : Purges calls first QuietHour.log QuietHour.log := by
    unfold Purges
    decide +kernel
  exact ⟨_, _, _, _, hswept, hclosed, (purges_append_other hother).mpr hsame, hgone, hthere⟩

/-- The messages of that hour do not influence each other. -/
theorem sessions_isolated_quietHour : ∃ log t,
    Course run (arrived Service.board calls start) log t ∧ log.length = 4 ∧
      ∃ log' t', Course run (arrived Service.board calls start) log' t' ∧
        Purges calls first log log' ∧ Isolated calls first t t' := by
  obtain ⟨e, ps, hswept⟩ := reaches_swept
  obtain ⟨⟨log', t', h', hpurges⟩, hall⟩ :=
    sessions_isolated steady Service.board calls first rfl hswept
  exact ⟨_, _, hswept, rfl, log', t', h', hpurges, hall log' t' h' hpurges⟩

end Automation.Session
