import Automation.Proofs.Session.Standings

/-!
# One message of a key at a time

At any time at most one message of a key is handled, and its instance is neither replaced nor
removed meanwhile. Another message of the key is turned away, and the conversations stay as they
are. The history of an instance holds the latest turns of the messages that got it, in their order.
-/

namespace Automation.Session

open History (latest)
open Interleaving (Move Reaches)

variable {ρ : Type} {s : Service} {others : Surroundings ρ} {enters : Call → Prop}

/-- The key and the text of a message. -/
def Call.message? : Call → Option (InstanceKey × String)
  | send key text => some (key, text)
  | _ => none

/-- Who got the instance with a number in an event. -/
def got? (serial : Nat) : Event → Option Nat
  | (n, ⟨.service (.beginTurn _), (_, some (serial', _))⟩) =>
    if serial' = serial then some n else none
  | _ => none

private theorem got?_of_not_table {r : ServiceRequest} {a : r.Answer} {n : Nat} {now : Time.Instant}
    (h : r.isOfTable = false) (serial : Nat) : got? serial (n, ⟨.service r, (now, a)⟩) = none := by
  cases r <;> first | rfl | cases h

/-- Those who got the instance with a number, in their order. -/
def served (serial : Nat) (log : List Event) : List Nat := log.filterMap (got? serial)

/-- How the messages stand after these events. -/
def standings (ps : List Caller) (log : List Event) : Standings where
  phase n := (ps[n]?).elim .waiting phase
  about n := (ps[n]?).bind fun p => p.task.message?
  served serial := served serial log

/-- What an exchange makes of a phase. -/
def Phase.next (x : Phase) : Dealing → Phase
  | ⟨.service r, a⟩ => x.after ⟨r, a.2⟩
  | _ => x

private theorem phase_concat (task : Call) (past : List Dealing) (x : Dealing)
    (rest rest' : Process Request Request.Answer (Option Response)) :
    phase ⟨task, past ++ [x], rest⟩ = (phase ⟨task, past, rest'⟩).next x := by
  obtain ⟨r, a⟩ := x
  cases r <;> simp [phase, untimed, Phase.next]

section Standings

variable {ps : List Caller} {log : List Event} {n : Nat} {p : Caller} {x : Dealing}
  {rest : Process Request Request.Answer (Option Response)}

theorem phase_standings (log : List Event) (hp : ps[n]? = some p) :
    (standings ps log).phase n = phase p := by
  simp [standings, hp]

private theorem elim_phase_append (ps : List Caller) (hp : p.past = []) (m : Nat) :
    ((ps ++ [p])[m]?).elim .waiting phase = (ps[m]?).elim .waiting phase := by
  rcases Nat.lt_or_ge m ps.length with hm | hm
  · rw [List.getElem?_append_left hm]
  · rw [List.getElem?_append_right hm, List.getElem?_eq_none hm]
    rcases Nat.eq_zero_or_pos (m - ps.length) with h0 | h0
    · simp [h0, phase, hp, untimed]
    · simp [Nat.ne_of_gt h0]

private theorem standings_join (ps : List Caller) (log : List Event) (hp : p.past = []) :
    standings (ps ++ [p]) log =
      { standings ps log with about := (standings (ps ++ [p]) log).about } := by
  unfold standings
  congr 1
  exact funext (elim_phase_append ps hp)

private theorem standings_answer (hp : ps[n]? = some p) :
    standings (ps.set n ⟨p.task, p.past ++ [x], rest⟩) (log ++ [(n, x)]) =
      { (standings ps log).set n ((phase p).next x) with
        served := fun serial => served serial log ++ (got? serial (n, x)).toList } := by
  obtain ⟨hn, hget⟩ := List.getElem?_eq_some_iff.mp hp
  unfold standings Standings.set
  congr 1
  · funext m
    by_cases hm : m = n
    · subst hm
      simp [hn, phase_concat p.task p.past x rest p.rest]
    · simp [hm, List.getElem?_set_ne (Ne.symm hm)]
  · funext m
    by_cases hm : m = n
    · subst hm
      simp [hn, hget]
    · simp [List.getElem?_set_ne (Ne.symm hm)]
  · funext serial
    simp [served, List.filterMap_append, List.filterMap_cons]
    cases got? serial (n, x) <;> rfl

private theorem standings_set (hp : ps[n]? = some p) (hgot : ∀ serial, got? serial (n, x) = none) :
    standings (ps.set n ⟨p.task, p.past ++ [x], rest⟩) (log ++ [(n, x)]) =
      (standings ps log).set n ((phase p).next x) := by
  rw [standings_answer hp]
  simp [hgot, Standings.set, standings]

private theorem standings_stay (hp : ps[n]? = some p) (hgot : ∀ serial, got? serial (n, x) = none)
    (hnext : (phase p).next x = phase p) :
    standings (ps.set n ⟨p.task, p.past ++ [x], rest⟩) (log ++ [(n, x)]) = standings ps log := by
  rw [standings_set hp hgot, hnext, ← phase_standings log hp]
  simp [Standings.set]

private theorem standings_serve {key : InstanceKey} {now : Time.Instant} {serial : Nat}
    {c : Conversation} (hp : ps[n]? = some p) (hphase : phase p = .waiting)
    (hx : x = ⟨.service (.beginTurn key), (now, some (serial, c))⟩) :
    standings (ps.set n ⟨p.task, p.past ++ [x], rest⟩) (log ++ [(n, x)]) =
      (standings ps log).serve n serial c := by
  subst hx
  have hserved : (fun k => served k log ++ (got? k
      (n, ⟨.service (.beginTurn key), (now, some (serial, c))⟩)).toList) =
        Function.update (fun k => served k log) serial (served serial log ++ [n]) := by
    funext k
    by_cases hk : k = serial
    · simp [hk, got?]
    · simp [hk, got?, Ne.symm hk]
  rw [standings_answer hp, hphase, hserved]
  rfl

end Standings

/-! ## What a move does -/

theorem table_of_serves {r : ServiceRequest} {a : r.Answer} {sh sh' : Shared ρ} {now : Time.Instant}
    (hr : r.isOfTable = false) (h : sh.serves others now r a sh') : sh'.table = sh.table := by
  cases r <;> first | exact h.1 | exact h.2.1 | cases hr

/-- A message gets at the instance that an access finds, unless that is busy. -/
theorem beginTurn_of_serves {key : InstanceKey} {a : Option (Nat × Conversation)}
    {sh sh' : Shared ρ} {now : Time.Instant} (h : sh.serves others now (.beginTurn key) a sh') :
    sh'.around = sh.around ∧ if (sh.table.getOrCreate key .null now).1.busy = true then
        a = none ∧ sh'.table = (sh.table.getOrCreate key .null now).2
      else
        a = some ((sh.table.getOrCreate key .null now).1.serial,
          (sh.table.getOrCreate key .null now).1.conversation) ∧
        sh'.table = (sh.table.getOrCreate key .null now).2.update
          (sh.table.getOrCreate key .null now).1.serial fun i => { i with busy := true } := by
  have hanswer : a = (sh.table.beginTurn key now).1.map fun i => (i.serial, i.conversation) := h.1
  have htable : sh'.table = (sh.table.beginTurn key now).2 := h.2.1
  rw [Instances.beginTurn_eq] at hanswer htable
  refine ⟨h.2.2, ?_⟩
  split
  · next hb =>
    rw [if_pos hb] at hanswer htable
    exact ⟨hanswer, htable⟩
  · next hb =>
    rw [if_neg hb] at hanswer htable
    exact ⟨hanswer, htable⟩

section Moves

variable {ps : List Caller} {log : List Event} {n : Nat} {p : Caller} {sh sh' : Shared ρ}
  {rest : Process Request Request.Answer (Option Response)}

theorem about_standings {key : InstanceKey} {text : String} (log : List Event)
    (hp : ps[n]? = some p) (htask : p.task = .send key text) :
    (standings ps log).about n = some (key, text) := by
  simp [standings, hp, htask, Call.message?]

private theorem fits_beginTurn {key : InstanceKey} {text : String} {now : Time.Instant}
    {a : Option (Nat × Conversation)} (hp : ps[n]? = some p) (htask : p.task = .send key text)
    (hphase : phase p = .waiting) (ha : sh.serves others now (.beginTurn key) a sh')
    (h : (standings ps log).Fits sh.table) :
    (standings (ps.set n ⟨p.task, p.past ++ [⟨.service (.beginTurn key), (now, a)⟩], rest⟩)
      (log ++ [(n, ⟨.service (.beginTurn key), (now, a)⟩)])).Fits sh'.table := by
  have hwaiting : (standings ps log).phase n = .waiting := (phase_standings log hp).trans hphase
  have htended := h.tended (h.sound.tended_getOrCreate key .null now)
  obtain ⟨-, hbegin⟩ := beginTurn_of_serves ha
  split at hbegin
  · obtain ⟨rfl, htable⟩ := hbegin
    rw [standings_set hp (fun _ => rfl), hphase, htable]
    exact htended.refuse hwaiting
  · next hfree =>
    obtain ⟨rfl, htable⟩ := hbegin
    have hget := h.sound.get?_getOrCreate key .null now key
    rw [if_pos rfl] at hget
    rw [standings_serve hp hphase rfl, htable]
    exact htended.serve hwaiting (about_standings log hp htask) hget (Bool.eq_false_iff.mpr hfree)

private theorem fits_keepTurn {key : InstanceKey} {text : String} {serial : Nat}
    {c c' : Conversation}
    {now : Time.Instant} {a : (ServiceRequest.keepTurn serial c').Answer} (hp : ps[n]? = some p)
    (htask : p.task = .send key text) (hphase : phase p = .begun serial c)
    (hc : c' = { c with history := c.history.pushUser text })
    (ha : sh.serves others now (.keepTurn serial c') a sh')
    (h : (standings ps log).Fits sh.table) :
    (standings (ps.set n ⟨p.task, p.past ++ [⟨.service (.keepTurn serial c'), (now, a)⟩], rest⟩)
      (log ++ [(n, ⟨.service (.keepTurn serial c'), (now, a)⟩)])).Fits sh'.table := by
  have hbegun := (phase_standings log hp).trans hphase
  have hheld : ((standings ps log).phase n).held? = some (serial, c) := by rw [hbegun]; rfl
  have hpushed : c'.history = c.history.pushUser text := by rw [hc]
  have htable : sh'.table = sh.table.store serial c' := ha.2.1
  rw [standings_set hp (fun _ => rfl), hphase, htable]
  refine h.speak (about_standings log hp htask)
    ⟨hheld, fun i => ⟨rfl, rfl, rfl⟩, hpushed, rfl, ?locks, ?keeps, ?adds⟩
  case locks => exact fun i hb => ⟨fun _ => rfl, fun _ => hb⟩
  case keeps =>
    rintro y ⟨⟩
    rfl
  case adds =>
    rw [hbegun]
    rfl

private theorem fits_endTurn {key : InstanceKey} {text message : String} {serial : Nat}
    {c c' : Conversation} {now : Time.Instant} {a : Unit} (hp : ps[n]? = some p)
    (htask : p.task = .send key text) (hphase : phase p = .asked serial c)
    (hc : c'.history = c.history.pushAssistant message)
    (ha : sh.serves others now (.endTurn serial c') a sh')
    (h : (standings ps log).Fits sh.table) :
    (standings (ps.set n ⟨p.task, p.past ++ [⟨.service (.endTurn serial c'), (now, a)⟩], rest⟩)
      (log ++ [(n, ⟨.service (.endTurn serial c'), (now, a)⟩)])).Fits sh'.table := by
  have hasked := (phase_standings log hp).trans hphase
  have hheld : ((standings ps log).phase n).held? = some (serial, c) := by rw [hasked]; rfl
  have htable : sh'.table = sh.table.finish serial c' now := ha.2.1
  rw [standings_set hp (fun _ => rfl), hphase, htable]
  refine h.speak (about_standings log hp htask)
    ⟨hheld, fun i => ⟨rfl, rfl, rfl⟩, hc, rfl, ?locks, nofun, ?adds⟩
  case locks => exact fun i hb => ⟨nofun, nofun⟩
  case adds =>
    rw [hasked]
    simp [Phase.next, Phase.after, Phase.turns, hc, lastText_pushAssistant]

private theorem fits_send {key : InstanceKey} {text : String} {r : ServiceRequest}
    {now : Time.Instant} {a : r.Answer} (hp : ps[n]? = some p) (htask : p.task = .send key text)
    (hr : (phase p).Allows key text r) (ha : sh.serves others now r a sh')
    (h : (standings ps log).Fits sh.table) :
    (standings (ps.set n ⟨p.task, p.past ++ [⟨.service r, (now, a)⟩], rest⟩)
      (log ++ [(n, ⟨.service r, (now, a)⟩)])).Fits sh'.table := by
  cases hphase : phase p with
  | waiting =>
    rw [hphase] at hr
    obtain rfl : r = .beginTurn key := hr
    exact fits_beginTurn hp htask hphase ha h
  | begun serial c =>
    rw [hphase] at hr
    obtain rfl : r = .keepTurn serial { c with history := c.history.pushUser text } := hr
    exact fits_keepTurn hp htask hphase rfl ha h
  | asked serial c =>
    rw [hphase] at hr
    rcases Phase.allows_asked hr with ⟨c', message, rfl, hc⟩ | hr
    · exact fits_endTurn hp htask hphase hc ha h
    · have hstays : (phase p).next ⟨.service r, (now, a)⟩ = phase p :=
        Phase.after_of_not_table hr
      rw [standings_stay hp (got?_of_not_table hr) hstays, table_of_serves hr ha]
      exact h
  | answered serial answer =>
    rw [hphase] at hr
    obtain ⟨turn, rfl⟩ := hr
    rw [standings_stay hp (fun _ => rfl) (by rw [hphase]; rfl), table_of_serves rfl ha]
    exact h
  | refused =>
    rw [hphase] at hr
    exact hr.elim

private theorem fits_answer {r : Request} {a : r.Answer} (hp : ps[n]? = some p) (hasked : Asked p r)
    (ha : Shared.answers others sh r a sh') (h : (standings ps log).Fits sh.table) :
    (standings (ps.set n ⟨p.task, p.past ++ [⟨r, a⟩], rest⟩) (log ++ [(n, ⟨r, a⟩)])).Fits
      sh'.table := by
  cases htask : p.task with
  | send key text =>
    obtain ⟨r, rfl, hr⟩ : ∃ r', r = .service r' ∧ (phase p).Allows key text r' := by
      simpa only [Asked, htask] using hasked
    rw [← htask]
    exact fits_send hp htask hr ha.2.2 h
  | create key initData =>
    obtain rfl : r = .service (.openInstance key initData) := by
      simpa only [Asked, htask] using hasked
    have htable : sh'.table = (sh.table.getOrCreate key initData a.1).2 := ha.2.2.2.1
    have hnext : (phase p).next ⟨.service (.openInstance key initData), a⟩ = phase p := by
      cases phase p <;> rfl
    rw [← htask, standings_stay hp (fun _ => rfl) hnext, htable]
    exact h.tended (h.sound.tended_getOrCreate key initData a.1)
  | list =>
    obtain rfl : r = .service .listInstances := by simpa only [Asked, htask] using hasked
    have htable : sh'.table = sh.table := ha.2.2.2.1
    have hnext : (phase p).next ⟨.service .listInstances, a⟩ = phase p := by cases phase p <;> rfl
    rw [← htask, standings_stay hp (fun _ => rfl) hnext, htable]
    exact h
  | sweep =>
    obtain rfl : r = .sweep := by simpa only [Asked, htask] using hasked
    obtain ⟨-, rfl⟩ := ha
    rw [← htask, standings_stay hp (fun _ => rfl) rfl]
    exact h.tended (h.sound.tended_sweep a.1)
  | maybeSweep =>
    obtain rfl : r = .maybeSweep := by simpa only [Asked, htask] using hasked
    obtain ⟨-, rfl⟩ := ha
    rw [← htask, standings_stay hp (fun _ => rfl) rfl]
    exact h.tended (h.sound.tended_maybeSweep a.1)

end Moves

variable {t u : State ρ} {log xs : List Event} {s₀ : Shared ρ}

theorem newcomers_sessions (r : Request) : (sessions s others enters).newcomers r = [] := rfl

private theorem fits_of_move (hm : Move (sessions s others enters) t xs u)
    (hcourse : ∀ p ∈ t.parties, Process.Course (p.task.process s) p.past p.rest)
    (h : (standings t.parties log).Fits t.shared.table) :
    (standings u.parties (log ++ xs)).Fits u.shared.table := by
  cases hm with
  | @join ps sh task _ =>
    rw [List.append_nil, standings_join _ _ rfl]
    refine h.about fun m hm => ?_
    have hlt : m < ps.length := by
      by_contra hge
      exact hm (by simp [standings, List.getElem?_eq_none (Nat.le_of_not_lt hge)])
    simp only [standings, List.getElem?_append_left hlt]
  | answer hp ha =>
    rw [newcomers_sessions, List.append_nil]
    exact fits_answer hp (asked_of_course (hcourse _ (List.mem_of_getElem? hp))) ha h

private theorem party_course {t₀ : State ρ}
    (hnew : ∀ p ∈ t₀.parties, Process.Course (p.task.process s) p.past p.rest)
    (h : Interleaving.Course (sessions s others enters) t₀ log t) :
    ∀ p ∈ t.parties, Process.Course (p.task.process s) p.past p.rest := by
  refine Interleaving.Course.forall_parties
    (P := fun p => Process.Course (p.task.process s) p.past p.rest)
    (fun task => .stay _) (fun task past r next a hc => ?_) hnew h
  exact hc.trans (.move a (.stay _))

/-- What is left of the callers follows from what they have asked, and the standings fit, if at
first nobody has asked anything and there are no instances. -/
theorem fits_of_course {t₀ : State ρ} (hnew : ∀ p ∈ t₀.parties, p.past = [])
    (hprocess : ∀ p ∈ t₀.parties, p.rest = p.task.process s)
    (h : Interleaving.Course (sessions s others enters) t₀ log t)
    (hlive : t₀.shared.table.live = []) :
    (∀ p ∈ t.parties, Process.Course (p.task.process s) p.past p.rest) ∧
      (standings t.parties log).Fits t.shared.table := by
  induction h with
  | stay =>
    refine ⟨fun p hp => ?_, Standings.fits_of_live (fun n => ?_) (fun _ => rfl) hlive⟩
    · rw [hnew p hp, hprocess p hp]
      exact .stay _
    · cases hn : t₀.parties[n]? with
      | none => simp [standings, hn]
      | some p => simp [standings, hn, phase, hnew p (List.mem_of_getElem? hn), untimed]
  | move _ m ih =>
    -- what a party asks follows from its course, so both are carried through the moves at once
    obtain ⟨hcourse, hfits⟩ := ih
    exact ⟨party_course hcourse (.move .stay m), fits_of_move m hcourse hfits⟩

theorem fits_of_reaches (h : Reaches (sessions s others enters) s₀ log t)
    (hlive : s₀.table.live = []) :
    (∀ p ∈ t.parties, Process.Course (p.task.process s) p.past p.rest) ∧
      (standings t.parties log).Fits t.shared.table :=
  fits_of_course (by simp) (by simp) h hlive

/-! ## One at a time -/

/-- The message with this number is handled: it has the instance of the key, which has a number. -/
def Handles (t : State ρ) (n : Nat) (key : InstanceKey) (serial : Nat) : Prop :=
  ∃ p text c, t.parties[n]? = some p ∧ p.task = .send key text ∧
    (phase p).held? = some (serial, c)

/-- The turns of the message with this number so far. -/
def said (t : State ρ) (n : Nat) : List Model.Message := (standings t.parties []).turns n

/-- A message that got an instance keeps its text there first thing, and when it is no longer
handled it has kept its answer as well, with which it ends. -/
def Spoke (t : State ρ) (n : Nat) (key : InstanceKey) (serial : Nat) : Prop :=
  ∃ p text, t.parties[n]? = some p ∧ p.task = .send key text ∧
    ((Handles t n key serial ∧ said t n = [] ∧
        ∃ c next, p.rest = .ask (.service (.keepTurn serial c)) next) ∨
      (Handles t n key serial ∧ said t n = [{ role := .user, content := text }]) ∨
      ((∀ key' serial', ¬ Handles t n key' serial') ∧ ∃ answer,
        said t n = [{ role := .user, content := text }, { role := .assistant, content := answer }] ∧
        ∀ r, p.rest = .done (some r) → r.message = answer ∧ r.status ≠ .busy))

/-- A message is turned away at a time: it ends, the instance of its key is touched, and others may
be removed that are not busy and have been idle for too long. -/
structure TurnedAway (n : Nat) (key : InstanceKey) (now : Time.Instant) (t u : State ρ) : Prop where
  ends : ∃ p, u.parties[n]? = some p ∧
    p.rest = .done (some { status := .busy, message := key.busyMessage })
  callers : ∀ m, m ≠ n → u.parties[m]? = t.parties[m]?
  around : u.shared.around = t.shared.around
  touched : u.shared.table.get? key = (t.shared.table.get? key).map (·.touch now)
  rest : ∀ k, k ≠ key → u.shared.table.get? k = t.shared.table.get? k ∨
    u.shared.table.get? k = (t.shared.table.get? k).filter fun i => !t.shared.table.evicts now i

/-- The messages of each key come one at a time, and the histories are made of their turns. -/
structure Orderly (s : Service) (others : Surroundings ρ) (enters : Call → Prop) (log : List Event)
    (t : State ρ) : Prop where
  /-- One message of a key is handled at most. -/
  one : ∀ m n key serial serial', Handles t m key serial → Handles t n key serial' → m = n
  /-- Its instance is the one that it got, and locked. -/
  kept : ∀ n key serial, Handles t n key serial →
    ∃ i, t.shared.table.get? key = some i ∧ i.serial = serial ∧ i.busy = true
  /-- Another message that arrives meanwhile is turned away; otherwise it is handled. -/
  arrives : ∀ n key now a u,
    Move (sessions s others enters) t [(n, ⟨.service (.beginTurn key), (now, a)⟩)] u →
      ((∃ m serial, Handles t m key serial) ∧ TurnedAway n key now t u) ∨
      ((∀ m serial, ¬ Handles t m key serial) ∧ ∃ serial, Handles u n key serial)
  /-- A history holds the latest turns of the messages that got the instance, in their order. -/
  history : ∀ key i, t.shared.table.get? key = some i → i.conversation.history.turns =
    latest i.conversation.history.limit ((served i.serial log).flatMap (said t))
  once : ∀ serial, (served serial log).Nodup
  spoke : ∀ key i n, t.shared.table.get? key = some i → n ∈ served i.serial log →
    Spoke t n key i.serial
  /-- Only messages that are turned away or in error get no instance. -/
  ended : ∀ (n : Nat) (p : Caller) key text r, t.parties[n]? = some p → p.task = .send key text →
    p.rest = .done r → (∃ serial, n ∈ served serial log) ∨
      r = some { status := .busy, message := key.busyMessage } ∨
      ∃ response, r = some response ∧ response.status = .error

section Orderly

variable {n : Nat} {key : InstanceKey} {serial : Nat}

private theorem Call.message?_eq_some {task : Call} {text : String}
    (h : task.message? = some (key, text)) : task = .send key text := by
  cases task <;> cases h
  rfl

private theorem handles_iff (log : List Event) : Handles t n key serial ↔
    (∃ text, (standings t.parties log).about n = some (key, text)) ∧
      ∃ c, ((standings t.parties log).phase n).held? = some (serial, c) := by
  constructor
  · rintro ⟨p, text, c, hp, htask, hheld⟩
    refine ⟨⟨text, about_standings log hp htask⟩, c, ?_⟩
    rw [phase_standings _ hp, hheld]
  · rintro ⟨⟨text, habout⟩, c, hheld⟩
    obtain ⟨p, hp, hmessage⟩ := Option.bind_eq_some_iff.mp habout
    rw [phase_standings _ hp] at hheld
    exact ⟨p, text, c, hp, Call.message?_eq_some hmessage, hheld⟩

theorem kept_of_fits (h : (standings t.parties log).Fits t.shared.table)
    (hn : Handles t n key serial) :
    ∃ i, t.shared.table.get? key = some i ∧ i.serial = serial ∧ i.busy = true := by
  obtain ⟨⟨text, habout⟩, c, hheld⟩ := (handles_iff log).mp hn
  obtain ⟨key', text', i, habout', hi, hserial, hbusy, -⟩ := h.held n serial c hheld
  rw [habout] at habout'
  cases habout'
  exact ⟨i, hi, hserial, hbusy⟩

private theorem eq_of_handles (h : (standings t.parties log).Fits t.shared.table) {m serial' : Nat}
    (hm : Handles t m key serial) (hn : Handles t n key serial') : m = n := by
  obtain ⟨i, hi, rfl, -⟩ := kept_of_fits h hm
  obtain ⟨j, hj, rfl, -⟩ := kept_of_fits h hn
  rw [hi] at hj
  cases hj
  obtain ⟨-, c, hheld⟩ := (handles_iff log).mp hm
  obtain ⟨-, c', hheld'⟩ := (handles_iff log).mp hn
  exact h.eq_of_held hheld hheld'

private theorem exists_handles (h : (standings t.parties log).Fits t.shared.table) {i : Instance}
    (hi : t.shared.table.get? key = some i) (hb : i.busy = true) :
    ∃ n, Handles t n key i.serial := by
  obtain ⟨n, c, hheld⟩ := h.holder key i hi hb
  obtain ⟨key', text, j, habout, hj, heq, -⟩ := h.held n i.serial c hheld
  obtain rfl := h.sound.eq_of_serial hj hi heq
  rw [← Instances.key_of_get? hi, Instances.key_of_get? hj]
  exact ⟨n, (handles_iff log).mpr ⟨⟨text, habout⟩, c, hheld⟩⟩

private theorem ends_of_refused {p : Caller} {text : String} (htask : p.task = .send key text)
    (hc : Process.Course (p.task.process s) p.past p.rest) (hphase : phase p = .refused) :
    p.rest = .done (some { status := .busy, message := key.busyMessage }) := by
  rcases asks_or_ends htask hc with ⟨r, next, -, hallows⟩ | ⟨response, hrest, hcloses⟩
  · rw [hphase] at hallows
    exact hallows.elim
  · rw [hphase] at hcloses
    rw [hrest, show response = _ from hcloses]

theorem waiting_of_beginTurn {p : Caller} {next}
    (hc : Process.Course (p.task.process s) p.past (.ask (.service (.beginTurn key)) next)) :
    ∃ text, p.task = .send key text ∧ phase p = .waiting := by
  have hasked := asked_of_course hc
  unfold Asked at hasked
  split at hasked
  · next key' text htask =>
    obtain ⟨r, hr, hallows⟩ := hasked
    cases hr
    obtain ⟨hwaiting, rfl⟩ := Phase.allows_beginTurn hallows
    exact ⟨text, htask, hwaiting⟩
  all_goals cases hasked

theorem begins_of_move (hcourse : ∀ p ∈ t.parties, Process.Course (p.task.process s) p.past p.rest)
    {now : Time.Instant} {a : Option (Nat × Conversation)}
    (hm : Move (sessions s others enters) t [(n, ⟨.service (.beginTurn key), (now, a)⟩)] u) :
    ∃ p text, u.parties[n]? = some p ∧ p.task = .send key text ∧
      Process.Course (p.task.process s) p.past p.rest ∧
      phase p = Phase.waiting.next ⟨.service (.beginTurn key), (now, a)⟩ ∧
      (∀ m, m ≠ n → u.parties[m]? = t.parties[m]?) ∧
      t.shared.serves others now (.beginTurn key) a u.shared := by
  obtain ⟨p, next, hp, hrest, ha, hparties, hn⟩ := hm.of_event
  rw [newcomers_sessions, List.append_nil] at hparties
  have hpc := hcourse p (List.mem_of_getElem? hp)
  obtain ⟨text, htask, hwaiting⟩ := waiting_of_beginTurn (hrest ▸ hpc)
  refine ⟨_, text, hn, htask, hpc.trans (hrest ▸ .move _ (.stay _)), ?_, ?_, ha.2.2⟩
  · rw [phase_concat p.task p.past _ _ p.rest]
    exact congrArg (Phase.next · _) hwaiting
  · intro m hm
    rw [hparties, List.getElem?_set_ne (Ne.symm hm)]

private theorem touched_of_busy (hs : t.shared.table.Sound) {i : Instance} {now : Time.Instant}
    (hi : t.shared.table.get? key = some i) (hb : i.busy = true)
    (htable : u.shared.table = (t.shared.table.getOrCreate key .null now).2) :
    u.shared.table.get? key = (t.shared.table.get? key).map (·.touch now) ∧
      ∀ k, k ≠ key → u.shared.table.get? k = t.shared.table.get? k ∨
        u.shared.table.get? k =
          (t.shared.table.get? k).filter fun i => !t.shared.table.evicts now i := by
  have hget := hs.get?_getOrCreate key .null now
  constructor
  · rw [htable, hget, if_pos rfl, hs.getOrCreate_busy hi hb, hi]
    rfl
  · intro k hk
    rw [htable, hget, if_neg hk]
    exact hs.get?_maybeSweep now k

private theorem arrives_of_fits (h : (standings t.parties log).Fits t.shared.table)
    (hcourse : ∀ p ∈ t.parties, Process.Course (p.task.process s) p.past p.rest)
    {now : Time.Instant} {a : Option (Nat × Conversation)}
    (hm : Move (sessions s others enters) t [(n, ⟨.service (.beginTurn key), (now, a)⟩)] u) :
    ((∃ m serial, Handles t m key serial) ∧ TurnedAway n key now t u) ∨
      ((∀ m serial, ¬ Handles t m key serial) ∧ ∃ serial, Handles u n key serial) := by
  obtain ⟨p, text, hn, htask, hpc, hphase, hcallers, ha⟩ := begins_of_move hcourse hm
  obtain ⟨haround, hbegin⟩ := beginTurn_of_serves ha
  split at hbegin
  · next hbusy =>
    obtain ⟨rfl, htable⟩ := hbegin
    obtain ⟨i, hi, hib⟩ := h.sound.exists_busy hbusy
    obtain ⟨m, hm⟩ := exists_handles h hi hib
    obtain ⟨htouched, hrest⟩ := touched_of_busy h.sound hi hib htable
    exact .inl ⟨⟨m, i.serial, hm⟩,
      ⟨⟨p, hn, ends_of_refused htask hpc hphase⟩, hcallers, haround, htouched, hrest⟩⟩
  · next hfree =>
    obtain ⟨rfl, -⟩ := hbegin
    refine .inr ⟨fun m serial hm => hfree ?_, _, p, text, _, hn, htask,
      congrArg Phase.held? hphase⟩
    obtain ⟨i, hi, -, hib⟩ := kept_of_fits h hm
    rw [h.sound.getOrCreate_busy hi hib]
    exact hib

private theorem spoke_of_fits (h : (standings t.parties log).Fits t.shared.table)
    (hcourse : ∀ p ∈ t.parties, Process.Course (p.task.process s) p.past p.rest) {i : Instance}
    (hi : t.shared.table.get? key = some i) (hn : n ∈ served i.serial log) :
    Spoke t n key i.serial := by
  obtain ⟨text, habout⟩ := h.owner key i n hi hn
  have hserial := (h.got i.serial n).mp hn
  obtain ⟨p, hp, hmessage⟩ := Option.bind_eq_some_iff.mp habout
  have htask := Call.message?_eq_some hmessage
  have hpc := hcourse p (List.mem_of_getElem? hp)
  have hsaid : said t n = (phase p).turns text := by
    have habout' : (standings t.parties []).about n = some (key, text) := habout
    rw [said, Standings.turns, phase_standings _ hp, habout']
    rfl
  rw [phase_standings _ hp] at hserial
  refine ⟨p, text, hp, htask, ?_⟩
  cases hphase : phase p with
  | waiting | refused =>
    rw [hphase] at hserial
    cases hserial
  | begun serial c =>
    rw [hphase] at hserial hsaid
    cases hserial
    refine .inl ⟨⟨p, text, c, hp, htask, by rw [hphase]; rfl⟩, hsaid, ?_⟩
    rcases asks_or_ends htask hpc with ⟨r, next, hrest, hallows⟩ | ⟨response, -, hcloses⟩
    · rw [hphase] at hallows
      obtain rfl : r = _ := hallows
      exact ⟨_, _, hrest⟩
    · rw [hphase] at hcloses
      exact hcloses.elim
  | asked serial c =>
    rw [hphase] at hserial hsaid
    cases hserial
    exact .inr (.inl ⟨⟨p, text, c, hp, htask, by rw [hphase]; rfl⟩, hsaid⟩)
  | answered serial answer =>
    rw [hphase] at hserial hsaid
    cases hserial
    refine .inr (.inr ⟨?_, answer, hsaid, ?_⟩)
    · rintro key' serial' ⟨q, text', c, hq, -, hheld⟩
      rw [hp] at hq
      cases hq
      rw [hphase] at hheld
      cases hheld
    · intro r hrest
      rw [hrest] at hpc
      obtain ⟨response, hr, hcloses⟩ := closes_of_course htask hpc
      rw [hphase] at hcloses
      cases hr
      exact hcloses

private theorem ended_of_fits (h : (standings t.parties log).Fits t.shared.table)
    (hcourse : ∀ p ∈ t.parties, Process.Course (p.task.process s) p.past p.rest) {p : Caller}
    {text : String} {r : Option Response} (hp : t.parties[n]? = some p)
    (htask : p.task = .send key text) (hrest : p.rest = .done r) :
    (∃ serial, n ∈ served serial log) ∨
      r = some { status := .busy, message := key.busyMessage } ∨
      ∃ response, r = some response ∧ response.status = .error := by
  have hpc := hcourse p (List.mem_of_getElem? hp)
  rw [hrest] at hpc
  obtain ⟨response, rfl, hcloses⟩ := closes_of_course htask hpc
  have hgot (serial : Nat) := h.got serial n
  rw [phase_standings _ hp] at hgot
  cases hphase : phase p with
  | waiting =>
    rw [hphase] at hcloses
    exact .inr (.inr ⟨response, rfl, hcloses⟩)
  | refused =>
    rw [hphase] at hcloses
    exact .inr (.inl (congrArg some hcloses))
  | answered serial answer => exact .inl ⟨serial, (hgot serial).mpr (by rw [hphase]; rfl)⟩
  | begun | asked =>
    rw [hphase] at hcloses
    exact hcloses.elim

end Orderly

/-- Whatever is called in whatever order, messages of a key come one at a time. -/
theorem sessions_orderly (h : Reaches (sessions s others enters) s₀ log t)
    (hlive : s₀.table.live = []) : Orderly s others enters log t := by
  obtain ⟨hcourse, hfits⟩ := fits_of_reaches h hlive
  constructor
  case one => exact fun m n key serial serial' hm hn => eq_of_handles hfits hm hn
  case kept => exact fun n key serial hn => kept_of_fits hfits hn
  case arrives => exact fun n key now a u hm => arrives_of_fits hfits hcourse hm
  case history => exact hfits.history
  case once => exact hfits.once
  case spoke => exact fun key i n hi hn => spoke_of_fits hfits hcourse hi hn
  case ended => exact fun n p key text r hp htask hrest =>
    ended_of_fits hfits hcourse hp htask hrest

/-! ## A busy hour

An instance is left idle, and it is removed an hour later when a message to another one is turned
away. -/

theorem send_process (s : Service) {key : InstanceKey} {text : String}
    (hkey : Service.checkKey key = none) (htext : Text.isBlankText text = false) : ∃ next,
      Call.process s (.send key text) = .ask (.service (.beginTurn key)) next ∧
        ∀ now serial c, next (now, some (serial, c)) = timed (s.handle key serial c text) := by
  dsimp only [Call.process]
  unfold Service.send
  rw [hkey, htext]
  exact ⟨_, rfl, fun _ _ _ => rfl⟩

private theorem create_process (s : Service) {key : InstanceKey} (initData : Json.Value)
    (hkey : Service.checkKey key = none) : ∃ next,
      Call.process s (.create key initData) =
        .ask (.service (.openInstance key initData)) next := by
  dsimp only [Call.process]
  unfold Service.createInstance
  rw [hkey]
  exact ⟨_, rfl⟩

/-- A cancellation keeps its text, ends the turn with the answer and is recorded. -/
theorem handle_cancel (s : Service) (key : InstanceKey) (serial : Nat) (c : Conversation)
    {text : String} (hcancel : Reply.isCancel (Text.trim text) = true) :
    let asked := { c with history := c.history.pushUser text }
    let turn := Service.cancel asked
    timed (s.handle key serial c text) =
      .ask (.service (.keepTurn serial asked)) fun _ =>
        .ask (.service (.endTurn serial
          { turn.2 with history := turn.2.history.pushAssistant turn.1.message })) fun _ =>
            .ask (.service (.logTurn key { role := .user, content := text })) fun _ =>
              .ask (.service (.logTurn key { role := .assistant, content := turn.1.message }))
                fun _ => .done (some turn.1) := by
  intro asked turn
  have hrespond : s.respond key asked (Text.trim text)
      (c.history.recent s.settings.instances.contextWindow) = .done turn := if_pos hcancel
  unfold Service.handle
  dsimp only
  rw [hrespond]
  rfl

namespace BusyHour

def idle : InstanceKey := ⟨"a", "2"⟩

def busy : InstanceKey := ⟨"a", "1"⟩

/-- The instances may be idle for an hour. -/
def table : Instances :=
  { ttlMs := 3600000, sweepIntervalMs := 300000, historyLimit := 50, lastSweep := 0 }

def opened : Instances := (table.getOrCreate idle .null ⟨0, 0⟩).2

def begun : Instances := (opened.beginTurn busy ⟨3000, 0⟩).2

/-- Everybody may call, and the surroundings may answer anything. -/
abbrev calls : Interleaving Call (Shared Unit) Request Request.Answer (Option Response) :=
  sessions Service.board (fun _ _ _ _ _ => True) fun _ => True

/-- An instance is created at first, and another one gets a message almost an hour later. The next
message to that one comes soon after. -/
theorem reaches : ∃ log ps u, Reaches calls ⟨⟨0, 0⟩, table, ()⟩ log ⟨ps, ⟨3000, 0⟩, begun, ()⟩ ∧
    Handles (ρ := Unit) ⟨ps, ⟨3000, 0⟩, begun, ()⟩ 1 busy 1 ∧
    Move calls ⟨ps, ⟨3000, 0⟩, begun, ()⟩
      [(2, ⟨.service (.beginTurn busy), (⟨4000, 0⟩, none)⟩)] u ∧
    u.shared.table = (begun.beginTurn busy ⟨4000, 0⟩).2 := by
  have hidle : Service.checkKey idle = none := by decide +kernel
  have hbusy : Service.checkKey busy = none := by decide +kernel
  obtain ⟨created, hcreate⟩ := create_process Service.board .null hidle
  have hhello : Text.isBlankText "hello" = false := by decide +kernel
  have hagain : Text.isBlankText "hello again" = false := by decide +kernel
  obtain ⟨first, hfirst, -⟩ := send_process Service.board hbusy hhello
  obtain ⟨second, hsecond, -⟩ := send_process Service.board hbusy hagain
  obtain ⟨c, hbegin⟩ : ∃ c, (opened.beginTurn busy ⟨3000, 0⟩).1.map
      (fun i => (i.serial, i.conversation)) = some (1, c) := ⟨_, rfl⟩
  have joined : Reaches calls ⟨⟨0, 0⟩, table, ()⟩ []
      ⟨[⟨.create idle .null, [], .ask (.service (.openInstance idle .null)) created⟩,
        ⟨.send busy "hello", [], .ask (.service (.beginTurn busy)) first⟩,
        ⟨.send busy "hello again", [], .ask (.service (.beginTurn busy)) second⟩],
        ⟨⟨0, 0⟩, table, ()⟩⟩ := by
    rw [← hcreate, ← hfirst, ← hsecond]
    exact ((Interleaving.Course.stay.move (.join trivial)).move (.join trivial)).move
      (.join trivial)
  have hopen : calls.answers ⟨⟨0, 0⟩, table, ()⟩
      (.service (.openInstance idle .null)) (⟨0, 0⟩, _) ⟨⟨0, 0⟩, opened, ()⟩ :=
    ⟨Int.le_refl _, rfl, rfl, rfl, rfl⟩
  have hbegun : calls.answers ⟨⟨0, 0⟩, opened, ()⟩
      (.service (.beginTurn busy)) (⟨3000, 0⟩, some (1, c)) ⟨⟨3000, 0⟩, begun, ()⟩ :=
    ⟨by decide, rfl, hbegin.symm, rfl, rfl⟩
  have hrefused : calls.answers ⟨⟨3000, 0⟩, begun, ()⟩
      (.service (.beginTurn busy)) (⟨4000, 0⟩, none)
      ⟨⟨4000, 0⟩, (begun.beginTurn busy ⟨4000, 0⟩).2, ()⟩ :=
    ⟨by decide, rfl, rfl, rfl, rfl⟩
  have handled := (joined.move (.answer (n := 0) rfl hopen)).move (.answer (n := 1) rfl hbegun)
  refine ⟨_, _, _, handled, ?_, .answer (n := 2) rfl hrefused, rfl⟩
  exact ⟨_, "hello", c, rfl, rfl, rfl⟩

end BusyHour

open BusyHour

/-- The message that is turned away does change something: the instance that was idle is removed. -/
theorem removes_idle_busyHour : ∃ log t u,
    Reaches calls ⟨⟨0, 0⟩, table, ()⟩ log t ∧ Handles t 1 busy 1 ∧
      Move calls t [(2, ⟨.service (.beginTurn busy), (⟨4000, 0⟩, none)⟩)] u ∧
      (t.shared.table.get? idle).isSome = true ∧ (u.shared.table.get? idle).isSome = false ∧
      (t.shared.table.get? busy).map (·.lastAccessed) ≠
        (u.shared.table.get? busy).map (·.lastAccessed) := by
  obtain ⟨log, ps, u, hreaches, hhandles, hmove, htable⟩ := BusyHour.reaches
  have hidle : (begun.get? idle).isSome = true := by decide +kernel
  have hremoved : ((begun.beginTurn busy ⟨4000, 0⟩).2.get? idle).isSome = false := by decide +kernel
  have htouched : (begun.get? busy).map (·.lastAccessed) ≠
      ((begun.beginTurn busy ⟨4000, 0⟩).2.get? busy).map (·.lastAccessed) := by decide +kernel
  refine ⟨log, _, u, hreaches, hhandles, hmove, hidle, ?_⟩
  rw [htable]
  exact ⟨hremoved, htouched⟩

/-- All that is so of the messages of that hour. -/
theorem sessions_orderly_busyHour : ∃ log t, Reaches calls ⟨⟨0, 0⟩, table, ()⟩ log t ∧
    Handles t 1 busy 1 ∧ Orderly Service.board (fun _ _ _ _ _ => True) (fun _ => True) log t := by
  obtain ⟨log, ps, -, hreaches, hhandles, -, -⟩ := BusyHour.reaches
  exact ⟨log, _, hreaches, hhandles, sessions_orderly hreaches rfl⟩

end Automation.Session
