import Automation.Trigger.Polling
import Automation.Trigger.Settings
import Mathlib.Data.List.Count
import Mathlib.Logic.Relation

/-!
# How long a search goes on

Starts, stops and the steps of the searches interleave. A search that is started goes on until the
next stop if no call is left over from an earlier one; otherwise it may end although it should go
on. What a pass finds and how long a search waits is left open.
-/

namespace Automation.Polling

/-- What is kept of the searches, and how many stops have taken the word back but not called yet. -/
structure Standing where
  polling : Polling := {}
  owed : Nat := 0

/-- A call reaches one of the searches that wait; if there is none it is kept. -/
inductive Called (p : Polling) : Polling → Prop where
  | reached {n : Nat} : p.phases[n]? = some .waiting → Called p (p.set n .called)
  | kept : .waiting ∉ p.phases → Called p { p with permit := true }

/-- The searches after one of them is through with its pass. It breaks down if there is no time to
wait for. -/
def afterPass (settings : PollSettings) (p : Polling) (n : Nat) (failed : Bool) : Polling :=
  match settings.waitMs? failed with
  | none => p.set n .ended
  | some _ => (p.rest n).2

/-- A single step, other than a stop. -/
inductive Move (settings : PollSettings) : Standing → Standing → Prop where
  /-- A start, which changes nothing if a search should be going on. -/
  | start {p : Polling} {owed : Nat} :
      Move settings ⟨p, owed⟩ ⟨(p.start?.map Prod.snd).getD p, owed⟩
  /-- A stop that has taken the word back calls. -/
  | call {p q : Polling} {owed : Nat} : Called p q → Move settings ⟨p, owed + 1⟩ ⟨q, owed⟩
  /-- A search takes its first step, or its time to wait is over. -/
  | look {p : Polling} {owed n : Nat} :
      p.phases[n]? = some .started ∨ p.phases[n]? = some .waiting →
        Move settings ⟨p, owed⟩ ⟨(p.observe n).2, owed⟩
  | pass {p : Polling} {owed n : Nat} (failed : Bool) : p.phases[n]? = some .passing →
      Move settings ⟨p, owed⟩ ⟨afterPass settings p n failed, owed⟩
  | wake {p : Polling} {owed n : Nat} : p.phases[n]? = some .called →
      Move settings ⟨p, owed⟩ ⟨p.set n .ended, owed⟩
  /-- The time to wait is over before a search notices that it was called: the call goes on. -/
  | late {p q : Polling} {owed n : Nat} : p.phases[n]? = some .called → Called p q →
      Move settings ⟨p, owed⟩ ⟨(q.observe n).2, owed⟩

/-- A stop takes the word back, if it was given, and owes a call. -/
def Standing.stop (s : Standing) : Standing :=
  if s.polling.running then ⟨{ s.polling with running := false, latest := none }, s.owed + 1⟩
  else s

/-- What can come about without a stop. -/
def Quiet (settings : PollSettings) : Standing → Standing → Prop :=
  Relation.ReflTransGen (Move settings)

/-- What can come about from the beginning. -/
def Reachable (settings : PollSettings) : Standing → Prop :=
  Relation.ReflTransGen (fun s t => Move settings s t ∨ t = s.stop) {}

/-- No call is left over. -/
structure Clear (s : Standing) : Prop where
  permit : s.polling.permit = false
  owed : s.owed = 0
  called : .called ∉ s.polling.phases

/-- The search with the number goes on, and nothing is left over that could end it. -/
structure Lasting (n : Nat) (s : Standing) : Prop where
  running : s.polling.running = true
  latest : s.polling.latest = some n
  alive : s.polling.hasEnded n = false
  clear : Clear s

variable {settings : PollSettings} {p q : Polling} {s t : Standing} {n m owed : Nat}

private theorem called_call (p : Polling) : Called p p.call := by
  unfold call
  cases h : p.phases.findIdx? (· = .waiting) with
  | some n =>
    obtain ⟨hn, hp, -⟩ := List.findIdx?_eq_some_iff_getElem.mp h
    exact .reached (by simpa [List.getElem?_eq_some_iff] using ⟨hn, of_decide_eq_true hp⟩)
  | none =>
    rw [List.findIdx?_eq_none_iff] at h
    exact .kept fun hm => by simpa using h _ hm

/-- A stop does in one step what taking the word back and calling do in two. -/
theorem stop_called (h : p.running = true) :
    Called (Standing.stop ⟨p, owed⟩).polling p.stop.2 := by
  have hstop : (Standing.stop ⟨p, owed⟩).polling = { p with running := false, latest := none } := by
    simp [Standing.stop, h]
  have hcall : p.stop.2 = ({ p with running := false, latest := none } : Polling).call := by
    simp only [stop, h, if_true, call]
    split <;> rfl
  rw [hstop, hcall]
  exact called_call _

/-! ## A search that is not disturbed -/

private theorem hasEnded_eq_false :
    p.hasEnded n = false ↔ ∃ ph, p.phases[n]? = some ph ∧ ph ≠ .ended := by
  unfold hasEnded
  cases p.phases[n]? <;> simp

private theorem hasEnded_set {ph : SearchPhase} (hph : ph ≠ .ended) (h : p.hasEnded n = false) :
    (p.set m ph).hasEnded n = false := by
  rw [hasEnded_eq_false] at h ⊢
  obtain ⟨old, hold, hne⟩ := h
  by_cases hm : m = n
  · subst hm
    exact ⟨ph, List.getElem?_set_self (List.getElem?_eq_some_iff.mp hold).1, hph⟩
  · exact ⟨old, by rw [set, List.getElem?_set_ne hm, hold], hne⟩

private theorem Clear.set {ph : SearchPhase} (hph : ph ≠ .called) (h : Clear ⟨p, owed⟩) :
    Clear ⟨p.set m ph, owed⟩ where
  permit := h.permit
  owed := h.owed
  called := fun hm => by
    rcases List.mem_or_eq_of_mem_set hm with hm | rfl
    · exact h.called hm
    · exact hph rfl

private theorem start?_eq_some (h : p.start? = some (n, q)) :
    p.running = false ∧ n = p.phases.length ∧
    q = { p with running := true, phases := p.phases ++ [.started], latest := some n } := by
  unfold start? at h
  split at h
  · simp at h
  · next hr =>
    simp only [Option.some.injEq, Prod.mk.injEq] at h
    obtain ⟨rfl, rfl⟩ := h
    exact ⟨by simpa using hr, rfl, rfl⟩

private theorem start?_eq_none (h : p.running = true) : p.start? = none := by
  simp [start?, h]

private theorem Lasting.start (hc : Clear s) (h : s.polling.start? = some (n, q)) :
    Lasting n ⟨q, s.owed⟩ := by
  obtain ⟨-, rfl, rfl⟩ := start?_eq_some h
  refine ⟨rfl, rfl, ?_, ⟨hc.permit, hc.owed, ?_⟩⟩
  · exact hasEnded_eq_false.mpr ⟨.started, by simp, by simp⟩
  · simpa using hc.called

/-- Nothing but a stop disturbs a search when no call is left over. -/
theorem Lasting.move (hwait : ∀ failed, (settings.waitMs? failed).isSome) (h : Lasting n s)
    (m : Move settings s t) : Lasting n t := by
  obtain ⟨hrunning, hlatest, halive, hclear⟩ := h
  cases m with
  | start =>
    rw [start?_eq_none hrunning]
    exact ⟨hrunning, hlatest, halive, hclear⟩
  | call => exact absurd hclear.owed (Nat.succ_ne_zero _)
  | look =>
    simp only at hrunning
    simp only [observe, hrunning, if_true]
    exact ⟨hrunning, hlatest, hasEnded_set (by simp) halive, hclear.set (by simp)⟩
  | pass failed =>
    obtain ⟨ms, hms⟩ := Option.isSome_iff_exists.mp (hwait failed)
    have hpermit := hclear.permit
    simp only at hpermit
    simp only [afterPass, hms, rest, hpermit, Bool.false_eq_true, if_false]
    exact ⟨hrunning, hlatest, hasEnded_set (by simp) halive, hclear.set (by simp)⟩
  | wake hn => exact absurd (List.mem_of_getElem? hn) hclear.called
  | late hn => exact absurd (List.mem_of_getElem? hn) hclear.called

private theorem Lasting.quiet (hwait : ∀ failed, (settings.waitMs? failed).isSome) (h : Lasting n s)
    (hq : Quiet settings s t) : Lasting n t := by
  induction hq with
  | refl => exact h
  | tail _ m ih => exact ih.move hwait m

/-! ## A search that is disturbed -/

/-- A search that should go on is in the middle of a pass. -/
structure Passing (n : Nat) (s : Standing) : Prop where
  running : s.polling.running = true
  phase : s.polling.phases[n]? = some .passing

def Leftover (s : Standing) : Prop :=
  s.polling.permit = true ∨ s.owed ≠ 0 ∨ .called ∈ s.polling.phases

private theorem clear_iff : Clear s ↔ ¬ Leftover s := by
  simp only [Leftover, not_or, Bool.not_eq_true, not_not]
  exact ⟨fun h => ⟨h.permit, h.owed, h.called⟩, fun ⟨h₁, h₂, h₃⟩ => ⟨h₁, h₂, h₃⟩⟩

private theorem hasEnded_set_ended : (p.set n .ended).hasEnded n = true := by
  unfold hasEnded set
  rw [List.getElem?_set]
  by_cases h : n < p.phases.length <;> simp [h]

private theorem set_phase {ph : SearchPhase} (h : p.phases[n]? = some ph) {new : SearchPhase} :
    (p.set n new).phases[n]? = some new :=
  List.getElem?_set_self (List.getElem?_eq_some_iff.mp h).1

private theorem observe_running (h : p.running = true) : (p.observe n).2 = p.set n .passing := by
  simp [observe, h]

private theorem Passing.ends (settings : PollSettings) (h : Passing n s)
    (hp : s.polling.permit = true) :
    ∃ t, Move settings s t ∧ t.polling.running = true ∧ t.polling.hasEnded n = true := by
  refine ⟨_, .pass false h.phase, ?_⟩
  unfold afterPass
  split
  · exact ⟨h.running, hasEnded_set_ended⟩
  · simp only [rest, hp, if_true]
    exact ⟨h.running, hasEnded_set_ended⟩

private theorem exists_none_waiting (settings : PollSettings) (hr : s.polling.running = true) :
    ∃ t, Quiet settings s t ∧ SearchPhase.waiting ∉ t.polling.phases ∧
      t.polling.running = true ∧ t.polling.permit = s.polling.permit ∧ t.owed = s.owed ∧
      ∀ (n : Nat) (ph : SearchPhase), ph ≠ .waiting → s.polling.phases[n]? = some ph →
        t.polling.phases[n]? = some ph := by
  obtain ⟨p, owed⟩ := s
  simp only at hr
  induction hk : p.phases.count SearchPhase.waiting generalizing p with
  | zero => exact ⟨_, .refl, List.count_eq_zero.mp hk, hr, rfl, rfl, fun _ _ _ h => h⟩
  | succ k ih =>
    have hmem : SearchPhase.waiting ∈ p.phases := List.count_pos_iff.mp (by omega)
    obtain ⟨n, hn⟩ := List.mem_iff_getElem?.mp hmem
    have hcount : (p.set n .passing).phases.count SearchPhase.waiting = k := by
      obtain ⟨hlt, hget⟩ := List.getElem?_eq_some_iff.mp hn
      simp [set, List.count_set hlt, hget, hk]
    obtain ⟨t, hq, hnone, hrun, hpermit, howed, hphases⟩ := ih (p.set n .passing) hr hcount
    have hlook : Move settings ⟨p, owed⟩ ⟨p.set n .passing, owed⟩ :=
      observe_running hr ▸ .look (.inr hn)
    refine ⟨t, .head hlook hq, hnone, hrun, hpermit, howed, fun m ph hph hm => ?_⟩
    have hne : n ≠ m := by
      rintro rfl
      rw [hn] at hm
      exact hph (Option.some.inj hm).symm
    exact hphases m ph hph (by rw [set, List.getElem?_set_ne hne, hm])

/-- Whatever is left over can come to be a call that is kept while the search makes its pass. -/
theorem Passing.exists_permit (h : Passing n s) (hl : Leftover s) :
    ∃ t, Quiet settings s t ∧ Passing n t ∧ t.polling.permit = true := by
  by_cases hp : s.polling.permit = true
  · exact ⟨s, .refl, h, hp⟩
  · obtain ⟨⟨p, owed⟩, hq, hnone, hrun, -, howed, hphases⟩ :=
      exists_none_waiting settings h.running
    have hn := hphases n .passing (by simp) h.phase
    rcases hl.resolve_left hp with hs | hs
    · obtain ⟨k, hk⟩ := Nat.exists_eq_succ_of_ne_zero hs
      obtain rfl : owed = k + 1 := howed.trans hk
      exact ⟨_, hq.tail (.call (.kept hnone)), ⟨hrun, hn⟩, rfl⟩
    · obtain ⟨m, hm⟩ := List.mem_iff_getElem?.mp hs
      have hm := hphases m .called (by simp) hm
      let kept : Polling := { p with permit := true }
      have hlate : Move settings ⟨p, owed⟩ ⟨kept.set m .passing, owed⟩ :=
        observe_running (p := kept) hrun ▸ .late hm (.kept hnone)
      refine ⟨_, hq.tail hlate, ⟨hrun, ?_⟩, rfl⟩
      by_cases hmn : m = n
      · subst hmn
        exact set_phase (p := kept) hn
      · rw [set, List.getElem?_set_ne hmn]
        exact hn

private theorem exists_passing (settings : PollSettings) (h : s.polling.start? = some (n, q)) :
    ∃ u, Move settings ⟨q, s.owed⟩ u ∧ Passing n u ∧ (Leftover s → Leftover u) := by
  obtain ⟨p, owed⟩ := s
  obtain ⟨-, rfl, rfl⟩ := start?_eq_some h
  set q : Polling :=
    { p with running := true, phases := p.phases ++ [.started], latest := some p.phases.length }
  have hstarted : q.phases[p.phases.length]? = some .started := by simp [q]
  have hlook : Move settings ⟨q, owed⟩ ⟨q.set p.phases.length .passing, owed⟩ :=
    observe_running (p := q) rfl ▸ .look (.inl hstarted)
  refine ⟨_, hlook, ⟨rfl, set_phase hstarted⟩, fun hl => hl.imp id (Or.imp id fun hm => ?_)⟩
  obtain ⟨m, hm⟩ := List.mem_iff_getElem?.mp hm
  have hlt : m < p.phases.length := (List.getElem?_eq_some_iff.mp hm).1
  refine List.mem_of_getElem? (i := m) ?_
  rw [set, List.getElem?_set_ne (Nat.ne_of_gt hlt), List.getElem?_append_left hlt]
  exact hm

private theorem exists_ended (h : s.polling.start? = some (n, q))
    (hl : ¬ (Clear s ∧ ∀ failed, (settings.waitMs? failed).isSome)) :
    ∃ t, Quiet settings ⟨q, s.owed⟩ t ∧ t.polling.running = true ∧ t.polling.hasEnded n = true := by
  obtain ⟨u, hlook, hpassing, hkeeps⟩ := exists_passing settings h
  by_cases hwait : ∀ failed, (settings.waitMs? failed).isSome
  · have hleft : Leftover s := by
      by_contra hnot
      exact hl ⟨clear_iff.mpr hnot, hwait⟩
    obtain ⟨v, hq, hv, hpermit⟩ := hpassing.exists_permit (hkeeps hleft)
    obtain ⟨t, hm, hrun, hend⟩ := hv.ends settings hpermit
    exact ⟨t, .head hlook (hq.tail hm), hrun, hend⟩
  · obtain ⟨failed, hnone⟩ := not_forall.mp hwait
    rw [Bool.not_eq_true, Option.isSome_eq_false_iff, Option.isNone_iff_eq_none] at hnone
    refine ⟨_, .head hlook (.single (.pass failed hpassing.phase)), ?_⟩
    simp only [afterPass, hnone]
    exact ⟨hpassing.running, hasEnded_set_ended⟩

/-! ## Runs -/

private theorem observe_keeps (p : Polling) (n : Nat) :
    (p.observe n).2.running = p.running ∧ (p.observe n).2.latest = p.latest := by
  unfold observe
  split <;> exact ⟨rfl, rfl⟩

private theorem afterPass_keeps (p : Polling) (n : Nat) (failed : Bool) :
    (afterPass settings p n failed).running = p.running ∧
      (afterPass settings p n failed).latest = p.latest := by
  unfold afterPass rest
  split
  · exact ⟨rfl, rfl⟩
  · split <;> exact ⟨rfl, rfl⟩

private theorem Called.keeps (h : Called p q) : q.running = p.running ∧ q.latest = p.latest := by
  cases h <;> exact ⟨rfl, rfl⟩

private theorem Move.keeps_or_starts (m : Move settings s t) :
    (t.polling.running = s.polling.running ∧ t.polling.latest = s.polling.latest) ∨
      ∃ n q, s.polling.start? = some (n, q) ∧ t = ⟨q, s.owed⟩ := by
  cases m with
  | @start p owed =>
    cases p.start? with
    | none => exact .inl ⟨rfl, rfl⟩
    | some x => exact .inr ⟨x.1, x.2, rfl, rfl⟩
  | call hc => exact .inl hc.keeps
  | look => exact .inl (observe_keeps _ _)
  | pass failed => exact .inl (afterPass_keeps _ _ _)
  | wake => exact .inl ⟨rfl, rfl⟩
  | @late p q owed n _ hc =>
    have ho := observe_keeps q n
    exact .inl ⟨ho.1.trans hc.keeps.1, ho.2.trans hc.keeps.2⟩

private theorem Reachable.started (h : Reachable settings t) (ht : t.polling.running = true) :
    ∃ s n q, Reachable settings s ∧ s.polling.start? = some (n, q) ∧
      Quiet settings ⟨q, s.owed⟩ t ∧ t.polling.latest = some n := by
  induction h with
  | refl => simp at ht
  | @tail u t hu hstep ih =>
    rcases hstep with hm | rfl
    · rcases hm.keeps_or_starts with ⟨hrunning, hlatest⟩ | ⟨n, q, hstart, rfl⟩
      · obtain ⟨s, n, q, hs, hstart, hq, hn⟩ := ih (hrunning ▸ ht)
        exact ⟨s, n, q, hs, hstart, hq.tail hm, hlatest.trans hn⟩
      · have hn : q.latest = some n := by
          obtain ⟨-, rfl, rfl⟩ := start?_eq_some hstart
          rfl
        exact ⟨u, n, q, hu, hstart, .refl, hn⟩
    · unfold Standing.stop at ht ⊢
      split at ht
      · simp at ht
      · next hr => exact absurd ht hr

/-- Whenever searches should go on, the latest of them was started with no stop since, and it is
still going on if no call was left over when it was started and every wait has a length. Where
something was left over it can come to its end without being asked to, whatever else happened. -/
theorem latest_lasts_iff (settings : PollSettings) :
    (∀ t, Reachable settings t → t.polling.running = true →
      ∃ s n q, Reachable settings s ∧ s.polling.start? = some (n, q) ∧
        Quiet settings ⟨q, s.owed⟩ t ∧ t.polling.latest = some n) ∧
    ∀ s n q, s.polling.start? = some (n, q) →
      ((∀ t, Quiet settings ⟨q, s.owed⟩ t → t.polling.running = true ∧
          t.polling.latest = some n ∧ t.polling.hasEnded n = false) ↔
        Clear s ∧ ∀ failed, (settings.waitMs? failed).isSome) := by
  refine ⟨fun t ht hr => Reachable.started ht hr, fun s n q hs => ⟨fun hall => ?_, ?_⟩⟩
  · by_contra hnot
    obtain ⟨t, hq, -, hend⟩ := exists_ended hs hnot
    have halive := (hall t hq).2.2
    rw [hend] at halive
    simp at halive
  · rintro ⟨hclear, hwait⟩ t hq
    have hlasting := (Lasting.start hclear hs).quiet hwait hq
    exact ⟨hlasting.running, hlasting.latest, hlasting.alive⟩

/-- With the usual settings the first search goes on until it is stopped. -/
theorem latest_lasts_first :
    ({} : Polling).start? = some (0, ⟨true, false, [.started], some 0⟩) ∧
      Clear {} ∧ (∀ failed, (({} : PollSettings).waitMs? failed).isSome) ∧
      ∀ t, Quiet {} ⟨⟨true, false, [.started], some 0⟩, 0⟩ t →
        t.polling.running = true ∧ t.polling.hasEnded 0 = false := by
  have hclear : Clear {} := ⟨rfl, rfl, by simp⟩
  have hwait : ∀ failed, (({} : PollSettings).waitMs? failed).isSome := by decide
  refine ⟨rfl, hclear, hwait, fun t hq => ?_⟩
  obtain ⟨hr, -, ha⟩ := ((latest_lasts_iff {}).2 {} 0 _ rfl).mpr ⟨hclear, hwait⟩ t hq
  exact ⟨hr, ha⟩

/-- A search is started and stopped before its first step, so that the call is kept. The search that
is started next takes it for its own after one pass. -/
theorem latest_ended_though_running :
    ∃ t, Reachable {} t ∧ t.polling.running = true ∧ t.polling.latest = some 1 ∧
      t.polling.hasEnded 1 = true := by
  have started : Reachable {} ⟨⟨true, false, [.started], some 0⟩, 0⟩ := .single (.inl .start)
  have stopped : Reachable {} ⟨⟨false, false, [.started], none⟩, 1⟩ := started.tail (.inr rfl)
  have kept : Reachable {} ⟨⟨false, true, [.started], none⟩, 0⟩ :=
    stopped.tail (.inl (.call (.kept (by decide))))
  have looked : Reachable {} ⟨⟨false, true, [.ended], none⟩, 0⟩ :=
    kept.tail (.inl (.look (n := 0) (.inl rfl)))
  have again : Reachable {} ⟨⟨true, true, [.ended, .started], some 1⟩, 0⟩ :=
    looked.tail (.inl .start)
  have passing : Reachable {} ⟨⟨true, true, [.ended, .passing], some 1⟩, 0⟩ :=
    again.tail (.inl (.look (n := 1) (.inl rfl)))
  have ended : Reachable {} ⟨⟨true, false, [.ended, .ended], some 1⟩, 0⟩ :=
    passing.tail (.inl (.pass (n := 1) false rfl))
  exact ⟨_, ended, rfl, rfl, rfl⟩

end Automation.Polling
