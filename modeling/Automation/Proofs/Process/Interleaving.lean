import Automation.Proofs.Process.Course

/-!
# Interleavings

Several parties go on side by side, each of them a process, and share a state by which their
requests are answered. One of them moves at a time, in any order; a party may join at any time, and
a request may let one join. What a party has asked is its part of the log of all.
-/

namespace Automation

/-- What parties there may be and which of them may join at any time, how a request is answered and
changes what they share, and whom it lets join. -/
structure Interleaving (τ σ : Type) (R : Type) (A : R → Type) (β : Type) where
  process : τ → Process R A β
  enters : τ → Prop
  answers : σ → (r : R) → A r → σ → Prop
  joins : R → Option τ

namespace Interleaving

variable {τ σ : Type} {R : Type} {A : R → Type} {β : Type}

/-- A party, with what it has asked and what is left of it. -/
structure Party (τ : Type) (R : Type) (A : R → Type) (β : Type) where
  task : τ
  past : List (Exchange R A)
  rest : Process R A β

structure State (τ σ : Type) (R : Type) (A : R → Type) (β : Type) where
  parties : List (Party τ R A β)
  shared : σ

/-- An exchange of the party with this number. -/
abbrev Event (R : Type) (A : R → Type) := Nat × Exchange R A

def newcomer (i : Interleaving τ σ R A β) (t : τ) : Party τ R A β := ⟨t, [], i.process t⟩

/-- Those whom a request lets join. -/
def newcomers (i : Interleaving τ σ R A β) (r : R) : List (Party τ R A β) :=
  (i.joins r).toList.map i.newcomer

inductive Move (i : Interleaving τ σ R A β) :
    State τ σ R A β → List (Event R A) → State τ σ R A β → Prop where
  | join {ps : List (Party τ R A β)} {s : σ} {t : τ} : i.enters t →
      Move i ⟨ps, s⟩ [] ⟨ps ++ [i.newcomer t], s⟩
  | answer {ps : List (Party τ R A β)} {s s' : σ} {n : Nat} {t : τ} {past : List (Exchange R A)}
      {r : R} {next : A r → Process R A β} {a : A r} :
      ps[n]? = some ⟨t, past, .ask r next⟩ → i.answers s r a s' →
        Move i ⟨ps, s⟩ [(n, ⟨r, a⟩)] ⟨ps.set n ⟨t, past ++ [⟨r, a⟩], next a⟩ ++ i.newcomers r, s'⟩

/-- Some moves, with these events in all. -/
inductive Course (i : Interleaving τ σ R A β) (s : State τ σ R A β) :
    List (Event R A) → State τ σ R A β → Prop where
  | stay : Course i s [] s
  | move {log log' : List (Event R A)} {t u : State τ σ R A β} :
      Course i s log t → Move i t log' u → Course i s (log ++ log') u

/-- What comes about when at first there is nobody. -/
def Reaches (i : Interleaving τ σ R A β) (s : σ) (log : List (Event R A))
    (t : State τ σ R A β) : Prop := Course i ⟨[], s⟩ log t

/-- The exchanges of the party with this number. -/
def share (n : Nat) (log : List (Event R A)) : List (Exchange R A) :=
  log.filterMap fun e => if e.1 = n then some e.2 else none

variable {i : Interleaving τ σ R A β} {s t u : State τ σ R A β} {log : List (Event R A)}

theorem getElem?_set_append {γ : Type} {xs ys : List γ} {n : Nat} {x y : γ}
    (h : xs[n]? = some x) : (xs.set n y ++ ys)[n]? = some y := by
  have hn := (List.getElem?_eq_some_iff.mp h).1
  rw [List.getElem?_append_left (by simpa using hn), List.getElem?_set_self hn]

theorem Move.of_event {n : Nat} {x : Exchange R A} (m : Move i s [(n, x)] t) :
    ∃ p next, s.parties[n]? = some p ∧ p.rest = .ask x.request next ∧
      i.answers s.shared x.request x.answer t.shared ∧
      t.parties = s.parties.set n ⟨p.task, p.past ++ [x], next x.answer⟩ ++
        i.newcomers x.request ∧
      t.parties[n]? = some ⟨p.task, p.past ++ [x], next x.answer⟩ := by
  cases m with
  | @answer ps shared shared' _ task past r next a hp ha =>
    exact ⟨⟨task, past, .ask r next⟩, next, hp, rfl, ha, rfl, getElem?_set_append hp⟩

theorem Course.trans {log' : List (Event R A)} (h : Course i s log t) (h' : Course i t log' u) :
    Course i s (log ++ log') u := by
  induction h' with
  | stay =>
    rw [List.append_nil]
    exact h
  | move _ m ih =>
    rw [← List.append_assoc]
    exact ih.move m

/-- Requests are answered one after the other. -/
inductive Serves (i : Interleaving τ σ R A β) : σ → List (Exchange R A) → σ → Prop where
  | nil (s : σ) : Serves i s [] s
  | cons {s t u : σ} {x : Exchange R A} {xs : List (Exchange R A)} :
      i.answers s x.request x.answer t → Serves i t xs u → Serves i s (x :: xs) u

/-- A party can go any course on which its requests are answered, and all others wait. -/
theorem Course.of_party {p q : Process R A β} {xs past : List (Exchange R A)} {n : Nat} {task : τ}
    {shared : σ} (hc : Process.Course p xs q) (hp : s.parties[n]? = some ⟨task, past, p⟩)
    (hs : i.Serves s.shared xs shared) :
    ∃ t, Course i s (xs.map (n, ·)) t ∧ t.parties[n]? = some ⟨task, past ++ xs, q⟩ ∧
      t.shared = shared := by
  induction hc generalizing s past with
  | stay =>
    cases hs
    exact ⟨s, .stay, by simpa using hp, rfl⟩
  | @move r next xs q a _ ih =>
    cases hs with
    | @cons _ shared' _ _ _ ha hrest =>
      let t : State τ σ R A β :=
        ⟨s.parties.set n ⟨task, past ++ [⟨r, a⟩], next a⟩ ++ i.newcomers r, shared'⟩
      have hmove : Move i s [(n, ⟨r, a⟩)] t := .answer hp ha
      have ht : t.parties[n]? = some ⟨task, past ++ [⟨r, a⟩], next a⟩ := getElem?_set_append hp
      obtain ⟨u, hcourse, hparty, hshared⟩ := ih ht hrest
      refine ⟨u, ?_, by simpa using hparty, hshared⟩
      exact (Course.stay.move hmove).trans hcourse

/-- A course that has an event is a course up to it, the move with it, and a course after it. -/
theorem Course.split {before after : List (Event R A)} {e : Event R A}
    (h : Course i s (before ++ e :: after) u) :
    ∃ t t', Course i s before t ∧ Move i t [e] t' ∧ Course i t' after u := by
  generalize hlog : before ++ e :: after = log at h
  induction h generalizing after with
  | stay => simp at hlog
  | @move log log' t u hc m ih =>
    cases m with
    | join hnew =>
      rw [List.append_nil] at hlog
      obtain ⟨v, v', hbefore, hmove, hafter⟩ := ih hlog
      have hlast := Course.move hafter (Move.join hnew)
      rw [List.append_nil] at hlast
      exact ⟨v, v', hbefore, hmove, hlast⟩
    | @answer ps shared shared' n task past r next a hp ha =>
      -- the last event is the one looked for, or one behind it
      rcases List.eq_nil_or_concat after with rfl | ⟨init, last, rfl⟩
      · obtain ⟨rfl, hlast⟩ := List.append_inj' hlog rfl
        cases hlast
        exact ⟨_, _, hc, .answer hp ha, .stay⟩
      · rw [List.concat_eq_append, ← List.cons_append, ← List.append_assoc] at hlog
        obtain ⟨hinit, hlast⟩ := List.append_inj' hlog rfl
        cases hlast
        obtain ⟨v, v', hbefore, hmove, hafter⟩ := ih hinit
        rw [List.concat_eq_append]
        exact ⟨v, v', hbefore, hmove, .move hafter (.answer hp ha)⟩

/-! ## Parties -/

/-- What holds of newcomers and stays when a party moves holds of everybody. -/
theorem Course.forall_parties {P : Party τ R A β → Prop} (hnew : ∀ task, P (i.newcomer task))
    (hanswer : ∀ task past r next a, P ⟨task, past, .ask r next⟩ →
      P ⟨task, past ++ [⟨r, a⟩], next a⟩)
    (hs : ∀ p ∈ s.parties, P p) (h : Course i s log t) : ∀ p ∈ t.parties, P p := by
  induction h with
  | stay => exact hs
  | move _ m ih =>
    cases m with
    | @join _ _ task _ =>
      intro p hp
      rcases List.mem_append.mp hp with hp | hp
      · exact ih p hp
      · rw [List.mem_singleton.mp hp]
        exact hnew task
    | answer hp _ =>
      intro p hmem
      rcases List.mem_append.mp hmem with hmem | hmem
      · rcases List.mem_or_eq_of_mem_set hmem with hmem | rfl
        · exact ih p hmem
        · exact hanswer _ _ _ _ _ (ih _ (List.mem_of_getElem? hp))
      · obtain ⟨task, -, rfl⟩ := List.mem_map.mp hmem
        exact hnew task

theorem Reaches.party_course {s : σ} (h : Reaches i s log t) :
    ∀ p ∈ t.parties, Process.Course (i.process p.task) p.past p.rest := by
  refine Course.forall_parties (P := fun p => Process.Course (i.process p.task) p.past p.rest)
    (fun task => .stay _) (fun task past r next a hc => ?_) (by simp) h
  exact hc.trans (.move a (.stay _))

/-- What the party with this number has asked; nothing if there is none. -/
def pastOf (ps : List (Party τ R A β)) (n : Nat) : List (Exchange R A) := (ps[n]?).elim [] (·.past)

private theorem pastOf_append {ps new : List (Party τ R A β)} (hnew : ∀ p ∈ new, p.past = [])
    (n : Nat) : pastOf (ps ++ new) n = pastOf ps n := by
  unfold pastOf
  by_cases hn : n < ps.length
  · rw [List.getElem?_append_left hn]
  · rw [List.getElem?_append_right (Nat.le_of_not_lt hn),
      List.getElem?_eq_none (Nat.le_of_not_lt hn)]
    cases hget : new[n - ps.length]? with
    | none => rfl
    | some p => exact hnew p (List.mem_of_getElem? hget)

/-- The log is made up of what the parties have asked. -/
theorem Reaches.pastOf_eq {s : σ} (h : Reaches i s log t) (n : Nat) :
    pastOf t.parties n = share n log := by
  induction h with
  | stay => rfl
  | move _ m ih =>
    rw [share, List.filterMap_append, ← share, ← ih]
    cases m with
    | join _ =>
      rw [pastOf_append (by simp [newcomer])]
      simp
    | @answer ps _ _ k task past r next a hp _ =>
      rw [pastOf_append (by simp [newcomers, newcomer])]
      by_cases hn : k = n
      · subst hn
        obtain ⟨hk, hget⟩ := List.getElem?_eq_some_iff.mp hp
        simp [pastOf, hk, hget]
      · simp [pastOf, hn]

theorem Reaches.share_course {s : σ} (h : Reaches i s log t) {n : Nat} {p : Party τ R A β}
    (hp : t.parties[n]? = some p) : Process.Course (i.process p.task) (share n log) p.rest := by
  have hpast : p.past = share n log := by
    rw [← h.pastOf_eq n, pastOf, hp]
    rfl
  rw [← hpast]
  exact h.party_course p (List.mem_of_getElem? hp)

theorem mem_share {n : Nat} {x : Event R A} (hx : x ∈ log) (hn : x.1 = n) : x.2 ∈ share n log :=
  List.mem_filterMap.mpr ⟨x, hx, if_pos hn⟩

theorem share_eq_append {n : Nat} {x : Exchange R A} {xs ys : List (Exchange R A)}
    (h : share n log = xs ++ x :: ys) :
    ∃ before after, log = before ++ (n, x) :: after ∧ share n before = xs ∧ share n after = ys := by
  obtain ⟨before, rest, rfl, hbefore, hrest⟩ := List.filterMap_eq_append_iff.mp h
  obtain ⟨others, ⟨k, y⟩, after, rfl, hothers, hy, hafter⟩ := List.filterMap_eq_cons_iff.mp hrest
  obtain ⟨rfl, rfl⟩ : k = n ∧ y = x := by simpa using hy
  refine ⟨before ++ others, after, by simp, ?_, hafter⟩
  rw [share, List.filterMap_append, hbefore, List.filterMap_eq_nil_iff.mpr hothers,
    List.append_nil]

end Interleaving

end Automation
