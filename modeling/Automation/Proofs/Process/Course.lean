import Automation.Process

/-!
# Courses of a process

A process moves when a request of it is answered, and a course is any number of moves with any
answers. What is asked and answered on the way is its log. A process that has ended has come through
all its parts one after the other, and its log is made up of theirs.
-/

namespace Automation

/-- A request and its answer. -/
structure Exchange (R : Type) (A : R → Type) where
  request : R
  answer : A request

namespace Process

variable {R : Type} {A : R → Type} {α β : Type}

@[simp] theorem bind_eq (p : Process R A α) (f : α → Process R A β) : p >>= f = p.andThen f := rfl

theorem bind_assoc {γ : Type} (p : Process R A α) (f : α → Process R A β)
    (g : β → Process R A γ) : p >>= f >>= g = p >>= fun a => f a >>= g := by
  induction p with
  | done a => rfl
  | ask r next ih => exact congrArg (ask r) (funext ih)

/-- A process makes some moves, with these exchanges in all. -/
inductive Course : Process R A α → List (Exchange R A) → Process R A α → Prop where
  | stay (p : Process R A α) : Course p [] p
  | move {r : R} {next : A r → Process R A α} {log : List (Exchange R A)} {q : Process R A α}
      (a : A r) : Course (next a) log q → Course (.ask r next) (⟨r, a⟩ :: log) q

/-- A process comes to its end with this result. -/
def Ends (p : Process R A α) (log : List (Exchange R A)) (a : α) : Prop := Course p log (.done a)

variable {p q : Process R A α} {f : α → Process R A β} {log log' : List (Exchange R A)}

theorem Course.trans {q' : Process R A α} (h : Course p log q) (h' : Course q log' q') :
    Course p (log ++ log') q' := by
  induction h with
  | stay => exact h'
  | move a _ ih => exact .move a (ih h')

theorem Course.bind (h : Course p log q) : Course (p >>= f) log (q >>= f) := by
  induction h with
  | stay => exact .stay _
  | move a _ ih => exact .move a ih

theorem Course.of_done {a : α} (h : Course (.done a) log q) : log = [] ∧ q = .done a := by
  cases h
  exact ⟨rfl, rfl⟩

theorem Course.of_ask {r r' : R} {next : A r → Process R A α} {next' : A r' → Process R A α}
    (h : Course (.ask r next) log (.ask r' next')) (hne : r ≠ r') :
    ∃ a log', log = ⟨r, a⟩ :: log' ∧ Course (next a) log' (.ask r' next') := by
  cases h with
  | stay => exact absurd rfl hne
  | move a h => exact ⟨a, _, rfl, h⟩

theorem Ends.of_done {a b : α} (h : Ends (.done a) log b) : log = [] ∧ b = a := by
  obtain ⟨hlog, heq⟩ := Course.of_done h
  cases heq
  exact ⟨hlog, rfl⟩

theorem Ends.of_ask {r : R} {next : A r → Process R A α} {b : α} (h : Ends (.ask r next) log b) :
    ∃ a log', log = ⟨r, a⟩ :: log' ∧ Ends (next a) log' b := by
  cases h with
  | move a h => exact ⟨a, _, rfl, h⟩

/-- In a sequence the first part still asks for something, or it has ended and the second is under
way. -/
theorem Course.of_bind {q : Process R A β} (h : Course (p >>= f) log q) :
    (∃ r next, Course p log (.ask r next) ∧ q = .ask r fun a => (next a).andThen f) ∨
      ∃ a log₁ log₂, log = log₁ ++ log₂ ∧ Ends p log₁ a ∧ Course (f a) log₂ q := by
  rw [bind_eq] at h
  induction p generalizing log with
  | done a => exact .inr ⟨a, [], log, rfl, .stay _, h⟩
  | ask r next ih =>
    cases h with
    | stay => exact .inl ⟨r, next, .stay _, rfl⟩
    | move a h =>
      rcases ih a h with ⟨r', next', hp, rfl⟩ | ⟨b, log₁, log₂, rfl, hp, hf⟩
      · exact .inl ⟨r', next', .move a hp, rfl⟩
      · exact .inr ⟨b, ⟨r, a⟩ :: log₁, log₂, rfl, .move a hp, hf⟩

theorem Course.of_bind_done {g : α → β} {r : R} {next : A r → Process R A β}
    (h : Course (p >>= fun a => .done (g a)) log (.ask r next)) :
    ∃ next', Course p log (.ask r next') := by
  rcases Course.of_bind h with ⟨r', next', hp, heq⟩ | ⟨a, log₁, log₂, -, -, hdone⟩
  · cases heq
    exact ⟨next', hp⟩
  · cases (Course.of_done hdone).2

theorem Ends.of_bind {b : β} (h : Ends (p >>= f) log b) :
    ∃ a log₁ log₂, log = log₁ ++ log₂ ∧ Ends p log₁ a ∧ Ends (f a) log₂ b := by
  rcases Course.of_bind h with ⟨r, next, -, hq⟩ | h
  · cases hq
  · exact h

theorem Ends.of_bind_done {g : α → β} {b : β}
    (h : Ends (p >>= fun a => .done (g a)) log b) : ∃ a, b = g a ∧ Ends p log a := by
  obtain ⟨a, log₁, log₂, rfl, hends, hdone⟩ := Ends.of_bind h
  obtain ⟨rfl, rfl⟩ := Ends.of_done hdone
  rw [List.append_nil]
  exact ⟨a, rfl, hends⟩

/-- What a process asks when it is run, and how it is answered. -/
def trace {σ : Type} (handle : (r : R) → σ → A r × σ) : Process R A α → σ → List (Exchange R A)
  | done _, _ => []
  | ask r next, s =>
    let (a, s) := handle r s
    ⟨r, a⟩ :: trace handle (next a) s

theorem ends_trace {σ : Type} (handle : (r : R) → σ → A r × σ) (p : Process R A α) (s : σ) :
    Ends p (trace handle p s) (run handle p s).1 := by
  induction p generalizing s with
  | done a => exact .stay _
  | ask r next ih => exact .move _ (ih (handle r s).1 (handle r s).2)

/-- Under every handler a process comes to the end to which running it leads. -/
theorem exists_ends {σ : Type} (handle : (r : R) → σ → A r × σ) (p : Process R A α) (s : σ) :
    ∃ log, Ends p log (run handle p s).1 :=
  ⟨_, ends_trace handle p s⟩

/-! ## Rules -/

/-- A rule says what may be asked at a point. The points are passed by exchanges. -/
structure Rule (R : Type) (A : R → Type) (δ : Type) where
  after : δ → Exchange R A → δ
  allows : δ → R → Prop

variable {δ : Type} {rule : Rule R A δ}

/-- From a point on, whatever is answered, only what the rule allows is asked, and the point and the
result at the end are such. -/
inductive Follows (rule : Rule R A δ) (post : δ → α → Prop) : δ → Process R A α → Prop where
  | done {x : δ} {a : α} : post x a → Follows rule post x (done a)
  | ask {x : δ} {r : R} {next : A r → Process R A α} : rule.allows x r →
      (∀ a, Follows rule post (rule.after x ⟨r, a⟩) (next a)) → Follows rule post x (ask r next)

namespace Follows

variable {post : δ → α → Prop} {x : δ}

theorem bind {last : δ → β → Prop} (hp : Follows rule post x p)
    (hf : ∀ y a, post y a → Follows rule last y (f a)) : Follows rule last x (p >>= f) := by
  rw [bind_eq]
  induction hp with
  | done h => exact hf _ _ h
  | ask hr _ ih => exact .ask hr ih

theorem perform {last : δ → β → Prop} {r : R} {f : A r → Process R A β} (hr : rule.allows x r)
    (h : ∀ a, Follows rule last (rule.after x ⟨r, a⟩) (f a)) :
    Follows rule last x (Process.ask r Process.done >>= f) := .ask hr h

theorem course (h : Follows rule post x p) (hc : Course p log q) :
    Follows rule post (log.foldl rule.after x) q := by
  induction hc generalizing x with
  | stay => exact h
  | move a _ ih =>
    cases h with
    | ask _ hnext => exact ih (hnext a)

theorem ends {a : α} (h : Follows rule post x p) (hp : Ends p log a) :
    post (log.foldl rule.after x) a := by
  cases h.course hp with
  | done hpost => exact hpost

theorem allows {r : R} {next : A r → Process R A α} (h : Follows rule post x (Process.ask r next)) :
    rule.allows x r := by
  cases h with
  | ask hr _ => exact hr

theorem mono {post' : δ → α → Prop} (h : Follows rule post x p)
    (himp : ∀ y a, post y a → post' y a) : Follows rule post' x p := by
  induction h with
  | done hpost => exact .done (himp _ _ hpost)
  | ask hr _ ih => exact .ask hr ih

/-- What follows one rule follows another that allows as much at a point and then stays there. -/
theorem stay {ε : Type} {rule' : Rule R A ε} {z : ε} {post' : ε → α → Prop}
    (h : Follows rule post x p) (hallows : ∀ y r, rule.allows y r → rule'.allows z r)
    (hafter : ∀ y r a, rule.allows y r → rule'.after z ⟨r, a⟩ = z)
    (hpost : ∀ y a, post y a → post' z a) : Follows rule' post' z p := by
  induction h with
  | done hy => exact .done (hpost _ _ hy)
  | ask hr _ ih => exact .ask (hallows _ _ hr) fun a => (hafter _ _ a hr).symm ▸ ih a

/-- The point at the end is the one to which a log leads. -/
theorem logged (h : Follows rule post x p) :
    Follows rule (fun y a => post y a ∧ ∃ log, Ends p log a ∧ y = log.foldl rule.after x) x p := by
  induction h with
  | done hpost => exact .done ⟨hpost, [], .stay _, rfl⟩
  | ask hr _ ih =>
    refine .ask hr fun a => (ih a).mono fun y b hb => ?_
    obtain ⟨hpost, log, hends, hy⟩ := hb
    exact ⟨hpost, ⟨_, a⟩ :: log, .move a hends, hy⟩

end Follows

/-- The process never asks anything but this. -/
def Asks (only : R → Prop) (p : Process R A α) : Prop :=
  Follows (⟨fun _ _ => (), fun _ => only⟩ : Rule R A Unit) (fun _ _ => True) () p

namespace Asks

variable {only : R → Prop}

theorem done (a : α) : Asks only (Process.done a : Process R A α) := Follows.done trivial

theorem ask {r : R} {next : A r → Process R A α} (hr : only r) (h : ∀ a, Asks only (next a)) :
    Asks only (Process.ask r next) := Follows.ask hr h

theorem bind (hp : Asks only p) (hf : ∀ a, Asks only (f a)) : Asks only (p >>= f) :=
  Follows.bind hp fun _ a _ => hf a

theorem course (h : Asks only p) (hc : Course p log q) : ∀ x ∈ log, only x.request := by
  induction hc with
  | stay => simp
  | move a _ ih =>
    cases h with
    | ask hr hnext =>
      intro x hx
      rcases List.mem_cons.mp hx with rfl | hx
      · exact hr
      · exact ih (hnext a) x hx

theorem mono {only' : R → Prop} (h : Asks only p) (himp : ∀ r, only r → only' r) :
    Asks only' p := by
  induction p with
  | done a => exact done a
  | ask r next ih =>
    cases h with
    | ask hr hnext => exact ask (himp r hr) fun a => ih a (hnext a)

theorem of_course {r : R} {next : A r → Process R A α} (h : Asks only p)
    (hc : Course p log (.ask r next)) : only r :=
  (Follows.course h hc).allows

theorem follows (h : Asks only p) (hallows : ∀ y r, only r → rule.allows y r) (x : δ) :
    Follows rule (fun y a => ∃ log, Ends p log a ∧ y = log.foldl rule.after x) x p := by
  have hall : Follows rule (fun _ _ => True) x p := by
    induction p generalizing x with
    | done a => exact .done trivial
    | ask r next ih =>
      cases h with
      | ask hr hnext => exact .ask (hallows x r hr) fun a => ih a (hnext a) _
  exact hall.logged.mono fun y a hlog => hlog.2

end Asks

/-- The rule that allows everything. -/
def Rule.free (R : Type) (A : R → Type) : Rule R A Unit := ⟨fun _ _ => (), fun _ _ => True⟩

/-- Whatever is answered, the result is such. -/
def Ensures (post : α → Prop) : Process R A α → Prop :=
  Follows (Rule.free R A) (fun _ => post) ()

namespace Ensures

variable {post : α → Prop}

theorem done {a : α} (h : post a) : Ensures post (done a : Process R A α) := Follows.done h

private theorem of_forall (h : ∀ a, post a) (p : Process R A α) : Ensures post p := by
  induction p with
  | done a => exact done (h a)
  | ask r next ih => exact Follows.ask trivial ih

theorem bind {last : β → Prop} (hp : Ensures post p) (hf : ∀ a, post a → Ensures last (f a)) :
    Ensures last (p >>= f) :=
  Follows.bind hp fun _ a h => hf a h

theorem bind_of_forall {last : β → Prop} (hf : ∀ a, Ensures last (f a)) :
    Ensures last (p >>= f) :=
  bind (of_forall (fun _ => trivial) p) fun a _ => hf a

theorem result {a : α} (h : Ensures post p) (hp : Ends p log a) : post a := Follows.ends h hp

end Ensures

end Process

end Automation
