import Automation.Proofs.Run.Progress
import Automation.Proofs.Workflow.Order

/-!
# The order of a sequential run

A run that takes one step at a time records, among the steps that remain and whose dependencies are
recorded, the one declared first. How the steps end has no part in that, so all sequential runs of a
valid workflow record its steps in one order.
-/

namespace Automation

namespace Run

variable {registry : Registry} {w : Workflow} {e : Engine} {now : Time.Instant} {s : State}
  {remaining : List (Nat × Step)} {log : List Event}

/-- The positions that are recorded, the first recorded first. -/
def State.order (s : State) : List Nat := (s.recorded.map Prod.fst).reverse

private theorem State.mem_order {i : Nat} : i ∈ s.order ↔ ∃ r, (i, r) ∈ s.recorded := by
  simp [State.order]

private theorem Stage.isReady_iff_enabled (hw : w.Sound registry)
    (h : Stage e w now remaining s log) {i : Nat} {step : Step} (hi : w.steps[i]? = some step) :
    isReady w s step = true ↔ w.Enabled s.order i := by
  rw [isReady_iff]
  constructor
  · intro hrecorded
    refine ⟨step, hi, fun d hd => ?_⟩
    obtain ⟨r, hr⟩ := hrecorded d hd
    obtain ⟨j, t, ht, hid, hm⟩ := State.recordOf?_mem h.nodup hr
    exact ⟨j, State.mem_order.mpr ⟨r, hm⟩, t, ht, hid⟩
  · rintro ⟨step', hi', hdone⟩ d hd
    obtain rfl : step = step' := Option.some.inj (hi.symm.trans hi')
    obtain ⟨j, hj, t, ht, rfl⟩ := hdone d hd
    obtain ⟨r, hr⟩ := State.mem_order.mp hj
    exact ⟨r, State.recordOf?_eq h.nodup hw.ids ht hr⟩

private theorem Stage.remaining_sublist (h : Stage e w now remaining s log) :
    remaining.Sublist (positions w) := by
  induction h with
  | start => exact .refl _
  | batch _ _ _ ih => exact (without_sublist _ _).trans ih

private theorem pairwise_positions (w : Workflow) :
    (positions w).Pairwise fun p q => p.1 < q.1 :=
  List.pairwise_map.mp (positions_fst w ▸ List.pairwise_lt_range)

/-- The first step that is ready is the next in the order. -/
theorem Stage.isNext (hw : w.Sound registry) (h : Stage e w now remaining s log) {i : Nat}
    {step : Step} {rest : List (Nat × Step)} (hready : ready w s remaining = (i, step) :: rest) :
    w.IsNext s.order i := by
  have hsub : ((i, step) :: rest).Sublist remaining := hready ▸ List.filter_sublist
  have hleft : (i, step) ∈ remaining := hsub.subset (by simp)
  have hi : w.steps[i]? = some step := h.tally.steps _ hleft
  have hsorted : ((i, step) :: rest).Pairwise fun p q => p.1 < q.1 :=
    (pairwise_positions w).sublist (hsub.trans h.remaining_sublist)
  constructor
  case pending =>
    intro hin
    obtain ⟨r, hr⟩ := State.mem_order.mp hin
    exact (List.nodup_append.mp h.tally.nodup).2.2 i (List.mem_map_of_mem hleft) i
      (List.mem_map_of_mem hr) rfl
  case enabled =>
    have hmem : (i, step) ∈ ready w s remaining := hready ▸ List.mem_cons_self
    exact (h.isReady_iff_enabled hw hi).mp (List.mem_filter.mp hmem).2
  case earliest =>
    intro j hj hpending henabled
    have ⟨t, ht, _⟩ := henabled
    have hjleft : (j, t) ∈ remaining :=
      (h.recorded_or_remains ht).resolve_left fun hr => hpending (State.mem_order.mpr hr)
    have hjready : (j, t) ∈ ready w s remaining :=
      List.mem_filter.mpr ⟨hjleft, (h.isReady_iff_enabled hw ht).mpr henabled⟩
    rw [hready, List.mem_cons] at hjready
    rcases hjready with heq | hlater
    · obtain ⟨rfl, -⟩ := Prod.mk.inj heq
      omega
    · have hlt := (List.pairwise_cons.mp hsorted).1 _ hlater
      dsimp only at hlt
      omega

private theorem order_afterBatch {p : Nat × Step} {vs : List Verdict}
    (hl : (dispatches w s [p]).length = vs.length) :
    (afterBatch w now s [p] vs).order = s.order ++ [p.1] := by
  have hone : ((skips w s [p]).map Prod.fst ++ (dispatches w s [p]).map Prod.fst).reverse = [p.1] :=
    List.perm_singleton.mp (skips_dispatches_perm w s [p])
  rw [State.order, afterBatch_fst hl, hone, List.reverse_append]
  rfl

private theorem Stage.greedy (hw : w.Sound registry) (hseq : e.settings.concurrent = false)
    (h : Stage e w now remaining s log) : w.Greedy s.order := by
  induction h with
  | start => exact .nil w
  | @batch remaining s log log' vs hs hr hb ih =>
    obtain ⟨⟨i, step⟩, rest, hready⟩ := List.exists_cons_of_ne_nil hr
    have hbatch : nextBatch e.settings.concurrent (ready w s remaining) = [(i, step)] := by
      rw [hseq, hready]
      rfl
    rw [hbatch] at hb ⊢
    rw [order_afterBatch hb.length_eq]
    exact ih.concat (hs.isNext hw hready)

/-- The records of a run stand in its order. -/
theorem Stage.forall₂_order (h : Stage e w now remaining s log) (id : Id)
    (started finished : Time.Instant) :
    List.Forall₂ (fun i rec => ∃ step, w.steps[i]? = some step ∧ rec.IsOf step) s.order
      (result w id started finished s).steps := by
  change List.Forall₂ _ (s.recorded.map Prod.fst).reverse (s.recorded.map Prod.snd).reverse
  rw [List.forall₂_reverse_iff, List.forall₂_map_left_iff, List.forall₂_map_right_iff,
    List.forall₂_same]
  intro p hp
  exact (h.recorded p hp).2

end Run

/-- The sequential runs of a workflow that is compiled without complaints have one order, whatever
the policy, the drivers and their answers. Each record belongs to the first declared step that is
not recorded yet and whose dependencies are. So the order is the least of the topological ones, and
it is the order of declaration if that is topological. -/
theorem Engine.execute_order {c : Compiler} {wid : Id} {created : Time.Instant} {b : Blueprint}
    {params : Params} (hvalid : (c.compile wid created b params).validation.isValid = true) :
    let w := c.compile wid created b params
    ∃ order, w.Greedy order ∧ w.IsTopological order ∧
      (∀ other, w.IsTopological other → order = other ∨ List.Lex (· < ·) order other) ∧
      (w.DeclaredInOrder → order = List.range w.steps.length) ∧
      ∀ e : Engine, e.settings.concurrent = false →
        ∀ id log x, Run.Ends e (e.execute w id) log x → ∃ r, x = .ok r ∧
          List.Forall₂ (fun i rec => ∃ s, w.steps[i]? = some s ∧ rec.IsOf s) order r.steps := by
  intro w
  have hw : w.Sound c.registry := Compiler.compile_sound hvalid
  have hwf : WellFounded w.Precedes := hw.wellFounded rfl (Compiler.compile_findCycle hvalid)
  -- what holds of the order in which any one run ends
  have hrun (e : Engine) (hseq : e.settings.concurrent = false) (id : Id) (log : List Run.Event)
      (x : Except Workflow.Invalid RunResult) (h : Run.Ends e (e.execute w id) log x) :
      ∃ r order, x = .ok r ∧ w.Greedy order ∧ order.Perm (List.range w.steps.length) ∧
        List.Forall₂ (fun i rec => ∃ s, w.steps[i]? = some s ∧ rec.IsOf s) order r.steps := by
    obtain ⟨started, finished, left, s, rfl, hs, hr⟩ := Run.Stage.of_ends hvalid h
    obtain rfl : left = [] := by
      by_contra hne
      exact hs.ready_ne_nil hw hwf hne hr
    exact ⟨_, s.order, rfl, hs.greedy hw hseq, (List.reverse_perm _).trans hs.tally.perm,
      hs.forall₂_order id started finished⟩
  -- one run gives the order, and every other has the same
  let e : Engine := ⟨c.registry, { concurrent := false }⟩
  obtain ⟨log, x, hc, -⟩ := Run.Point.reaches_end e (fun _ _ => none) (.asking (e.execute w wid))
  obtain ⟨-, order, -, hgreedy, hperm, -⟩ := hrun e rfl wid log x hc
  refine ⟨order, hgreedy, hgreedy.isTopological hperm, ?_, ?_, ?_⟩
  · intro other hother
    exact hgreedy.least hperm hother
  · intro hdeclared
    exact hgreedy.unique (Workflow.greedy_range hdeclared) hperm.length_eq
  · intro e hseq id log x h
    obtain ⟨r, order', rfl, hgreedy', hperm', hrecords⟩ := hrun e hseq id log x h
    obtain rfl : order = order' :=
      hgreedy.unique hgreedy' (hperm.length_eq.trans hperm'.length_eq.symm)
    exact ⟨r, rfl, hrecords⟩

/-- The answer to a mail is declared before the step that fetches it. -/
def Run.answerAboveFetch : Blueprint := .plan
  { name := "answer above fetch"
    steps := [⟨"b", "mail", "send", [("to", .string "step:a.output.sender")], []⟩,
      ⟨"a", "mail", "fetch", [], []⟩] }

theorem Engine.execute_order_answerAboveFetch :
    let w := Run.mailer.compile .zero ⟨0, 0⟩ Run.answerAboveFetch []
    let e : Engine := ⟨Run.mailer.registry, { concurrent := false }⟩
    w.validation.isValid = true ∧ ∃ order i rest log r, order = i :: rest ∧ i ≠ 0 ∧
      w.IsTopological order ∧ Run.Ends e (e.execute w .zero) log (.ok r) ∧
      List.Forall₂ (fun i rec => ∃ s, w.steps[i]? = some s ∧ rec.IsOf s) order r.steps := by
  intro w e
  have hvalid : w.validation.isValid = true := by decide +kernel
  obtain ⟨order, -, htopological, -, -, hrun⟩ := Engine.execute_order hvalid
  obtain ⟨log, x, hc, -⟩ := Run.Point.reaches_end e (fun _ _ => none) (.asking (e.execute w .zero))
  obtain ⟨r, rfl, hrecords⟩ := hrun e rfl .zero log x hc
  have hlength : order.length = 2 := by
    rw [htopological.perm.length_eq]
    decide +kernel
  obtain ⟨i, rest, rfl⟩ := List.exists_cons_of_length_eq_add_one hlength
  have hi : i ≠ 0 := by
    rintro rfl
    have hnot : ¬ w.Enabled [] 0 := by decide +kernel
    exact hnot (htopological.enabled [] 0 rest rfl)
  exact ⟨hvalid, _, i, rest, log, r, rfl, hi, htopological, hc, hrecords⟩

end Automation
