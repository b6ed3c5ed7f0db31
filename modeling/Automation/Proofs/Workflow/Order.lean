import Automation.Workflow.Compile
import Mathlib.Data.List.Lex

/-!
# Orders of steps

An order of the steps is topological if no step comes before one that it waits for. The order that
takes the first declared of all steps whose dependencies have come is the least such order, and it
is the order of declaration where that is topological itself.
-/

namespace Automation.Workflow

variable {w : Workflow} {order other done pre post : List Nat} {i j : Nat}

/-- The step at a position waits for nothing but steps at positions that are done. -/
def Enabled (w : Workflow) (done : List Nat) (i : Nat) : Prop :=
  ∃ s ∈ w.steps[i]?, ∀ d ∈ w.dependenciesOf s.id, ∃ j ∈ done, ∃ t ∈ w.steps[j]?, t.id = d

instance (w : Workflow) (done : List Nat) (i : Nat) : Decidable (w.Enabled done i) :=
  inferInstanceAs (Decidable (∃ s ∈ w.steps[i]?, _))

/-- Of the positions that are not done and whose steps may start the first is `i`. -/
structure IsNext (w : Workflow) (done : List Nat) (i : Nat) : Prop where
  pending : i ∉ done
  enabled : w.Enabled done i
  earliest : ∀ j < i, j ∉ done → ¬ w.Enabled done j

/-- Every position comes next after those before it. -/
def Greedy (w : Workflow) (order : List Nat) : Prop :=
  ∀ pre i post, order = pre ++ i :: post → w.IsNext pre i

/-- The order has every position once, and each step after all that it waits for. -/
structure IsTopological (w : Workflow) (order : List Nat) : Prop where
  perm : order.Perm (List.range w.steps.length)
  enabled : ∀ pre i post, order = pre ++ i :: post → w.Enabled pre i

/-- Every step is declared after all that it waits for. -/
def DeclaredInOrder (w : Workflow) : Prop :=
  ∀ (i : Nat), ∀ s ∈ w.steps[i]?, ∀ d ∈ w.dependenciesOf s.id,
    ∃ j < i, ∃ t ∈ w.steps[j]?, t.id = d

/-- Lists of one length are the same, or they differ in one place first. -/
theorem eq_or_differ {α : Type} {xs ys : List α} (h : xs.length = ys.length) :
    xs = ys ∨ ∃ pre x y post post', xs = pre ++ x :: post ∧ ys = pre ++ y :: post' ∧ x ≠ y := by
  induction xs generalizing ys with
  | nil => exact .inl (List.length_eq_zero_iff.mp h.symm).symm
  | cons x xs ih =>
    obtain ⟨y, ys, rfl⟩ := List.exists_cons_of_length_eq_add_one h.symm
    by_cases hxy : x = y
    · subst hxy
      rcases ih (Nat.succ.inj h) with rfl | ⟨pre, a, b, post, post', rfl, rfl, hab⟩
      · exact .inl rfl
      · exact .inr ⟨x :: pre, a, b, post, post', rfl, rfl, hab⟩
    · exact .inr ⟨[], x, y, xs, ys, rfl, rfl, hxy⟩

theorem Greedy.nil (w : Workflow) : w.Greedy [] := by
  intro pre i post h
  simp at h

theorem Greedy.concat (h : w.Greedy done) (hi : w.IsNext done i) : w.Greedy (done ++ [i]) := by
  intro pre j post hsplit
  rcases List.eq_nil_or_concat post with rfl | ⟨post, k, rfl⟩
  · obtain ⟨rfl, hij⟩ := List.append_inj' hsplit rfl
    obtain rfl := List.singleton_inj.mp hij
    exact hi
  · have hsplit : done ++ [i] = (pre ++ j :: post) ++ [k] := by simpa using hsplit
    exact h pre j post (List.append_inj' hsplit rfl).1

theorem Greedy.isTopological (h : w.Greedy order)
    (hperm : order.Perm (List.range w.steps.length)) : w.IsTopological order where
  perm := hperm
  enabled := fun pre i post hsplit => (h pre i post hsplit).enabled

/-- No order that is topological comes before one that always takes the next step. -/
theorem Greedy.least (h : w.Greedy order) (hperm : order.Perm (List.range w.steps.length))
    (hother : w.IsTopological other) : order = other ∨ List.Lex (· < ·) order other := by
  -- where the orders differ first `j` may start as well, so it is declared after `i`
  rcases eq_or_differ (hperm.trans hother.perm.symm).length_eq with heq |
    ⟨pre, i, j, post, post', rfl, rfl, hne⟩
  · exact .inl heq
  · have hnodup : (pre ++ j :: post').Nodup := hother.perm.nodup_iff.mpr List.nodup_range
    have hnew : j ∉ pre := fun hj => (List.nodup_append.mp hnodup).2.2 j hj j (by simp) rfl
    have hnot : ¬ j < i := fun hlt =>
      (h pre i post rfl).earliest j hlt hnew (hother.enabled pre j post' rfl)
    exact .inr (.append_left _ (.rel (by omega)) pre)

theorem Greedy.unique (h : w.Greedy order) (h' : w.Greedy other)
    (hlength : order.length = other.length) : order = other := by
  rcases eq_or_differ hlength with heq | ⟨pre, i, j, post, post', rfl, rfl, hne⟩
  · exact heq
  · have hi := h pre i post rfl
    have hj := h' pre j post' rfl
    have hij : ¬ j < i := fun hlt => hi.earliest j hlt hj.pending hj.enabled
    have hji : ¬ i < j := fun hlt => hj.earliest i hlt hi.pending hi.enabled
    exact absurd (by omega) hne

private theorem mem_of_range_eq {n : Nat} (h : List.range n = pre ++ i :: post) :
    j ∈ pre ↔ j < i := by
  have hsorted : (pre ++ i :: post).Pairwise (· < ·) := h ▸ List.pairwise_lt_range
  obtain ⟨-, htail, hbefore⟩ := List.pairwise_append.mp hsorted
  constructor
  · intro hj
    exact hbefore j hj i (by simp)
  · intro hlt
    have hin : i < n := List.mem_range.mp (h ▸ by simp)
    have hj : j ∈ pre ++ i :: post := h ▸ List.mem_range.mpr (by omega)
    rcases List.mem_append.mp hj with hj | hj
    · exact hj
    · rcases List.mem_cons.mp hj with rfl | hj
      · omega
      · have := (List.pairwise_cons.mp htail).1 j hj
        omega

theorem greedy_range (h : w.DeclaredInOrder) : w.Greedy (List.range w.steps.length) := by
  intro pre i post hsplit
  have hi : i < w.steps.length := List.mem_range.mp (hsplit ▸ by simp)
  constructor
  case pending => simp [mem_of_range_eq hsplit]
  case enabled =>
    refine ⟨w.steps[i], List.getElem?_eq_getElem hi, fun d hd => ?_⟩
    obtain ⟨j, hj, t, ht, hid⟩ := h i _ (List.getElem?_eq_getElem hi) d hd
    exact ⟨j, (mem_of_range_eq hsplit).mpr hj, t, ht, hid⟩
  case earliest =>
    intro j hj hnot
    exact absurd ((mem_of_range_eq hsplit).mpr hj) hnot

end Automation.Workflow
