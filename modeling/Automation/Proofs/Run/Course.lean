import Automation.Run.Engine
import Mathlib.Data.List.Forall2

/-!
# Courses of a run

A run moves when it is told the time, when it begins a batch, when one of the attempts of the batch
is answered or has paused, and when all of them are over. Which attempt goes on and what a driver
answers is left open, so a course is any interleaving with any answers. Every run comes to its end
on every course, and from every point it can reach the end whatever the drivers answer.
-/

namespace Automation.Run

/-- What can be seen of a run from outside. -/
inductive Event where
  /-- A driver got a call, so many having been made for the step before, and answered it or let the
  time for it pass. -/
  | called (c : StepCall) (earlier : Nat) (answer : Option Outcome)
  /-- The attempts at a call are over, and the run records how they ended. -/
  | recorded (c : StepCall) (v : Verdict)

/-- The attempts at a call as far as they have come: the number of calls made, and the rest. -/
structure Effort where
  call : StepCall
  made : Nat
  rest : Attempting Verdict

def Effort.start (e : Engine) (c : StepCall) : Effort :=
  ⟨c, 0, Attempt.run e.registry e.settings c⟩

inductive Effort.Move : Effort → List Event → Effort → Prop where
  | called {b : StepCall} {made : Nat} {c : StepCall} {secs : Nat}
      {next : Option Outcome → Attempting Verdict} (answer : Option Outcome) :
      Move ⟨b, made, .ask (.call c secs) next⟩ [.called c made answer] ⟨b, made + 1, next answer⟩
  | paused {b : StepCall} {made ms : Nat} {next : Unit → Attempting Verdict} :
      Move ⟨b, made, .ask (.pause ms) next⟩ [] ⟨b, made, next ()⟩

/-- Among the attempts at several calls those at one of them go on. -/
inductive Effort.MoveOne : List Effort → List Event → List Effort → Prop where
  | here {f f' : Effort} {fs : List Effort} {log : List Event} :
      Effort.Move f log f' → MoveOne (f :: fs) log (f' :: fs)
  | there {f : Effort} {fs fs' : List Effort} {log : List Event} :
      MoveOne fs log fs' → MoveOne (f :: fs) log (f :: fs')

/-- Where a run stands: it asks for something, or a batch is under way. -/
inductive Point (α : Type) where
  | asking (p : Running α)
  | attempting (efforts : List Effort) (next : List Verdict → Running α)

/-- The events of a batch that is over. -/
def records (cs : List StepCall) (vs : List Verdict) : List Event := cs.zipWith .recorded vs

variable {α : Type}

inductive Move (e : Engine) : Point α → List Event → Point α → Prop where
  | told {next : Time.Instant → Running α} (t : Time.Instant) :
      Move e (.asking (.ask .now next)) [] (.asking (next t))
  | begun {cs : List StepCall} {next : List Verdict → Running α} :
      Move e (.asking (.ask (.dispatch cs) next)) [] (.attempting (cs.map (Effort.start e)) next)
  | attempted {fs fs' : List Effort} {log : List Event} {next : List Verdict → Running α} :
      Effort.MoveOne fs log fs' → Move e (.attempting fs next) log (.attempting fs' next)
  | finished {fs : List Effort} {vs : List Verdict} {next : List Verdict → Running α} :
      List.Forall₂ (fun f v => f.rest = .done v) fs vs →
        Move e (.attempting fs next) (records (fs.map Effort.call) vs) (.asking (next vs))

/-- A run makes some moves, with these events in all. -/
inductive Course (e : Engine) : Point α → List Event → Point α → Prop where
  | stay (p : Point α) : Course e p [] p
  | move {p q r : Point α} {log log' : List Event} :
      Move e p log q → Course e q log' r → Course e p (log ++ log') r

def Ends (e : Engine) (p : Running α) (log : List Event) (a : α) : Prop :=
  Course e (.asking p) log (.asking (.done a))

/-- No course from the point goes on for ever, whatever is answered in whatever order. -/
def Terminates (e : Engine) (p : Point α) : Prop := Acc (fun q p => ∃ log, Move e p log q) p

/-- The drivers answer as they are told to for each call and each number of earlier calls. -/
def Obeys (answer : StepCall → Nat → Option Outcome) (log : List Event) : Prop :=
  ∀ c k a, Event.called c k a ∈ log → a = answer c k

theorem Course.trans {e : Engine} {p q r : Point α} {log log' : List Event}
    (h : Course e p log q) (h' : Course e q log' r) : Course e p (log ++ log') r := by
  induction h with
  | stay => exact h'
  | move m _ ih =>
    rw [List.append_assoc]
    exact .move m (ih h')

private theorem Obeys.append {answer : StepCall → Nat → Option Outcome} {log log' : List Event}
    (h : Obeys answer log) (h' : Obeys answer log') : Obeys answer (log ++ log') := by
  intro c k a ha
  rcases List.mem_append.mp ha with ha | ha
  · exact h c k a ha
  · exact h' c k a ha

private theorem Obeys.records (answer : StepCall → Nat → Option Outcome) (cs : List StepCall)
    (vs : List Verdict) : Obeys answer (records cs vs) := by
  intro c k a ha
  rw [Run.records, List.mem_iff_getElem] at ha
  obtain ⟨i, hi, he⟩ := ha
  simp at he

/-! ## Every course comes to an end -/

private theorem Move.not_done {e : Engine} {a : α} {log : List Event} {q : Point α} :
    ¬ Move e (.asking (.done a)) log q := nofun

theorem Course.of_done {e : Engine} {a : α} {log : List Event} {q : Point α}
    (h : Course e (.asking (.done a)) log q) : log = [] ∧ q = .asking (.done a) := by
  cases h with
  | stay => exact ⟨rfl, rfl⟩
  | move m _ => exact absurd m Move.not_done

/-- The attempts at one call cannot go on for ever. -/
theorem Effort.acc (f : Effort) : Acc (fun g f => ∃ log, Effort.Move f log g) f := by
  obtain ⟨b, made, rest⟩ := f
  induction rest generalizing made with
  | done v => exact ⟨_, nofun⟩
  | ask r next ih =>
    constructor
    rintro g ⟨log, m⟩
    cases m with
    | called answer => exact ih answer _
    | paused => exact ih () _

private theorem Effort.acc_list (fs : List Effort) :
    Acc (fun gs fs => ∃ log, Effort.MoveOne fs log gs) fs := by
  induction fs with
  | nil => exact ⟨_, nofun⟩
  | cons f fs ih =>
    induction f.acc generalizing fs with
    | intro f _ ihf =>
      induction ih with
      | intro fs hfs ihs =>
        constructor
        rintro gs ⟨log, m⟩
        cases m with
        | here m => exact ihf _ ⟨log, m⟩ _ ⟨_, hfs⟩
        | there m => exact ihs _ ⟨log, m⟩

private theorem terminates_attempting {e : Engine} {next : List Verdict → Running α}
    (h : ∀ vs, Terminates e (.asking (next vs))) (fs : List Effort) :
    Terminates e (.attempting fs next) := by
  induction Effort.acc_list fs with
  | intro fs _ ih =>
    constructor
    rintro q ⟨log, m⟩
    cases m with
    | attempted m => exact ih _ ⟨log, m⟩
    | finished _ => exact h _

private theorem terminates_asking (e : Engine) (p : Running α) : Terminates e (.asking p) := by
  induction p with
  | done a => exact ⟨_, fun _ ⟨_, m⟩ => absurd m Move.not_done⟩
  | ask r next ih =>
    constructor
    rintro q ⟨log, m⟩
    cases m with
    | told t => exact ih t
    | begun => exact terminates_attempting ih _

theorem terminates (e : Engine) (p : Point α) : Terminates e p := by
  cases p with
  | asking p => exact terminates_asking e p
  | attempting fs next => exact terminates_attempting (fun vs => terminates_asking e _) fs

/-! ## No run is stuck -/

private theorem Effort.over_or_moves (answer : StepCall → Nat → Option Outcome) (fs : List Effort) :
    (∃ vs, List.Forall₂ (fun f v => f.rest = .done v) fs vs) ∨
      ∃ log gs, Effort.MoveOne fs log gs ∧ Obeys answer log := by
  induction fs with
  | nil => exact .inl ⟨[], .nil⟩
  | cons f fs ih =>
    obtain ⟨b, made, rest⟩ := f
    match rest with
    | .done v =>
      rcases ih with ⟨vs, h⟩ | ⟨log, gs, m, h⟩
      · exact .inl ⟨v :: vs, .cons rfl h⟩
      · exact .inr ⟨log, _, .there m, h⟩
    | .ask (.call c secs) next =>
      refine .inr ⟨_, _, .here (.called (answer c made)), ?_⟩
      intro c' k a ha
      simp only [List.mem_singleton, Event.called.injEq] at ha
      obtain ⟨rfl, rfl, rfl⟩ := ha
      rfl
    | .ask (.pause ms) next => exact .inr ⟨_, _, .here .paused, by simp [Obeys]⟩

private theorem Point.ended_or_moves (e : Engine) (answer : StepCall → Nat → Option Outcome)
    (p : Point α) : (∃ a, p = .asking (.done a)) ∨ ∃ log q, Move e p log q ∧ Obeys answer log := by
  match p with
  | .asking (.done a) => exact .inl ⟨a, rfl⟩
  | .asking (.ask .now next) => exact .inr ⟨_, _, .told ⟨0, 0⟩, by simp [Obeys]⟩
  | .asking (.ask (.dispatch cs) next) => exact .inr ⟨_, _, .begun, by simp [Obeys]⟩
  | .attempting fs next =>
    rcases Effort.over_or_moves answer fs with ⟨vs, h⟩ | ⟨log, gs, m, h⟩
    · exact .inr ⟨_, _, .finished h, Obeys.records answer _ _⟩
    · exact .inr ⟨log, _, .attempted m, h⟩

/-- From every point a run can reach its end, whatever the drivers answer. -/
theorem Point.reaches_end (e : Engine) (answer : StepCall → Nat → Option Outcome) (p : Point α) :
    ∃ log a, Course e p log (.asking (.done a)) ∧ Obeys answer log := by
  induction terminates e p with
  | intro p _ ih =>
    rcases p.ended_or_moves e answer with ⟨a, rfl⟩ | ⟨log, q, m, h⟩
    · exact ⟨[], a, .stay _, by simp [Obeys]⟩
    · obtain ⟨log', a, c, h'⟩ := ih q ⟨log, m⟩
      exact ⟨log ++ log', a, .move m c, h.append h'⟩

end Automation.Run
