import Automation.Proofs.Process.Course

/-!
# Likeness of processes

Two processes are alike if they go on asking alike as long as they are answered alike. Which
requests and answers are alike may depend on a point, which is passed by exchanges.
-/

namespace Automation.Process

variable {R : Type} {A : R → Type} {α β δ : Type}

/-- At a point, which requests are alike, which of their answers are, and the point after them. -/
abbrev Likeness (R : Type) (A : R → Type) (δ : Type) :=
  δ → (r r' : R) → (A r → A r' → Prop) → δ → Prop

/-- From a point on the processes ask alike, as long as they are answered alike, and the point and
the results at the end are such. -/
inductive Alike (like : Likeness R A δ) (post : δ → α → α → Prop) :
    δ → Process R A α → Process R A α → Prop where
  | done {x : δ} {a a' : α} : post x a a' → Alike like post x (done a) (done a')
  | ask {x y : δ} {r r' : R} {next : A r → Process R A α} {next' : A r' → Process R A α}
      {same : A r → A r' → Prop} : like x r r' same y →
        (∀ a a', same a a' → Alike like post y (next a) (next' a')) →
          Alike like post x (ask r next) (ask r' next')

namespace Alike

variable {like : Likeness R A δ} {post : δ → α → α → Prop} {x : δ} {p p' : Process R A α}

theorem bind {f f' : α → Process R A β} {last : δ → β → β → Prop} (hp : Alike like post x p p')
    (hf : ∀ y a a', post y a a' → Alike like last y (f a) (f' a')) :
    Alike like last x (p >>= f) (p' >>= f') := by
  simp only [bind_eq]
  induction hp with
  | done h => exact hf _ _ _ h
  | ask hr _ ih => exact .ask hr ih

theorem perform {y : δ} {r r' : R} {same : A r → A r' → Prop} {f : A r → Process R A α}
    {f' : A r' → Process R A α} (hr : like x r r' same y)
    (h : ∀ a a', same a a' → Alike like post y (f a) (f' a')) :
    Alike like post x (Process.perform r >>= f) (Process.perform r' >>= f') := .ask hr h

theorem map {g : α → α} {post' : δ → α → α → Prop} (h : Alike like post x p p')
    (himp : ∀ y a a', post y a a' → post' y a (g a')) :
    Alike like post' x p (p' >>= fun a => .done (g a)) := by
  simp only [bind_eq]
  induction h with
  | done hpost => exact .done (himp _ _ _ hpost)
  | ask hr _ ih => exact .ask hr ih

theorem of_asks {only : R → Prop} (h : p.Asks only) (hsame : ∀ r, only r → like x r r Eq x) :
    Alike like (fun y a a' => y = x ∧ a' = a) x p p := by
  induction p with
  | done a => exact .done ⟨rfl, rfl⟩
  | ask r next ih =>
    cases h with
    | ask hr hnext =>
      refine .ask (hsame r hr) ?_
      rintro a _ rfl
      exact ih a (hnext a)

end Alike

end Automation.Process
