/-!
# Processes

A process asks its surroundings for one thing at a time and goes on with the answer. What may be
asked is a type of requests, and each request says what its answer is. Nothing is assumed about who
answers: a run under a handler is one way, interleaved processes under a scheduler another.
-/

namespace Automation

/-- A computation that asks requests of type `R`; the answer to `r` is in `A r`. -/
inductive Process (R : Type) (A : R → Type) (α : Type) where
  | done (value : α)
  | ask (request : R) (next : A request → Process R A α)

namespace Process

variable {R : Type} {A : R → Type} {α β : Type}

def andThen (p : Process R A α) (f : α → Process R A β) : Process R A β :=
  match p with
  | done a => f a
  | ask r next => ask r fun a => (next a).andThen f

instance : Monad (Process R A) where
  pure := done
  bind := andThen

def perform (r : R) : Process R A (A r) := ask r done

/-- Turns the requests of a process into requests of another kind. -/
def translate {S : Type} {B : S → Type} (f : (r : R) → Process S B (A r)) :
    Process R A α → Process S B α
  | done a => done a
  | ask r next => (f r).andThen fun a => translate f (next a)

/-- Runs a process on a state, every request answered by the handler. -/
def run {σ : Type} (handle : (r : R) → σ → A r × σ) : Process R A α → σ → α × σ
  | done a, s => (a, s)
  | ask r next, s =>
    let (a, s) := handle r s
    run handle (next a) s

@[simp] theorem andThen_done (a : α) (f : α → Process R A β) : (done a).andThen f = f a := rfl

@[simp] theorem andThen_ask (r : R) (next : A r → Process R A α) (f : α → Process R A β) :
    (ask r next).andThen f = ask r fun a => (next a).andThen f := rfl

/-- A handler runs a sequence by running its parts one after the other. -/
theorem run_andThen {σ : Type} (handle : (r : R) → σ → A r × σ) (p : Process R A α)
    (f : α → Process R A β) (s : σ) :
    run handle (p.andThen f) s = run handle (f (run handle p s).1) (run handle p s).2 := by
  induction p generalizing s with
  | done a => rfl
  | ask r next ih => exact ih _ _

end Process

end Automation
