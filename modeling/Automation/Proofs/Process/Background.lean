import Automation.Proofs.Process.Interleaving

/-!
# One party before a background

The requests of one party are answered one after the other, and in between the others move. Of them
the party needs to know no more than a relation within which all their moves keep.
-/

namespace Automation.Interleaving

variable {τ σ : Type} {R : Type} {A : R → Type} {β : Type}

/-- Requests are answered one after the other, and something may happen before, between and after
them. -/
inductive Amid (i : Interleaving τ σ R A β) (between : σ → σ → Prop) :
    σ → List (Exchange R A) → σ → Prop where
  | nil {s t : σ} : between s t → Amid i between s [] t
  | cons {s s' t u : σ} {x : Exchange R A} {xs : List (Exchange R A)} : between s s' →
      i.answers s' x.request x.answer t → Amid i between t xs u → Amid i between s (x :: xs) u

variable {i : Interleaving τ σ R A β} {between : σ → σ → Prop}

namespace Amid

variable {s t u : σ} {x : Exchange R A} {xs ys : List (Exchange R A)}

theorem between_of_nil (h : Amid i between s [] t) : between s t := by
  cases h with
  | nil hb => exact hb

theorem of_cons (h : Amid i between s (x :: xs) u) :
    ∃ s' t, between s s' ∧ i.answers s' x.request x.answer t ∧ Amid i between t xs u := by
  cases h with
  | cons hb ha hrest => exact ⟨_, _, hb, ha, hrest⟩

theorem of_append (hrefl : ∀ s, between s s) (h : Amid i between s (xs ++ ys) u) :
    ∃ t, Amid i between s xs t ∧ Amid i between t ys u := by
  induction xs generalizing s with
  | nil => exact ⟨s, .nil (hrefl s), h⟩
  | cons x xs ih =>
    obtain ⟨_, _, hb, ha, hrest⟩ := h.of_cons
    obtain ⟨t, hxs, hys⟩ := ih hrest
    exact ⟨t, .cons hb ha hxs, hys⟩

private theorem then_between (htrans : ∀ s t u, between s t → between t u → between s u)
    (h : Amid i between s xs t) (hb : between t u) : Amid i between s xs u := by
  induction h with
  | nil hb' => exact .nil (htrans _ _ _ hb' hb)
  | cons hb' ha _ ih => exact .cons hb' ha (ih hb)

private theorem then_answer (hrefl : ∀ s, between s s) (h : Amid i between s xs t)
    (ha : i.answers t x.request x.answer u) : Amid i between s (xs ++ [x]) u := by
  induction h with
  | nil hb => exact .cons hb ha (.nil (hrefl u))
  | cons hb ha' _ ih => exact .cons hb ha' (ih ha)

end Amid

variable {s u : State τ σ R A β} {log : List (Event R A)} {n : Nat}

/-- If all others keep within the relation, the requests of a party are answered amid it. -/
theorem Course.amid (hrefl : ∀ s, between s s)
    (htrans : ∀ s t u, between s t → between t u → between s u)
    (hothers : ∀ log' t k x t', Course i s log' t → (k, x) ∈ log → k ≠ n →
      Move i t [(k, x)] t' → between t.shared t'.shared)
    (h : Course i s log u) : Amid i between s.shared (share n log) u.shared := by
  induction h with
  | stay => exact .nil (hrefl _)
  | move hc m ih =>
    have ih := ih fun log' t k x t' hc hx => hothers log' t k x t' hc (List.mem_append_left _ hx)
    rw [share, List.filterMap_append, ← share]
    cases m with
    | join _ => simpa using ih
    | @answer ps shared shared' k task past r next a hp ha =>
      -- the last move is the party's own request, or keeps within the relation
      by_cases hk : k = n
      · subst hk
        have hlast := ih.then_answer hrefl (x := ⟨r, a⟩) ha
        simpa using hlast
      · have hlast := ih.then_between htrans
          (hothers _ _ k ⟨r, a⟩ _ hc (by simp) hk (.answer hp ha))
        simpa [hk] using hlast

private theorem getElem?_newcomer {ps : List (Party τ R A β)} (ts : List τ) {k : Nat}
    {p : Party τ R A β} (h : (ps ++ ts.map i.newcomer)[k]? = some p) :
    ps[k]? = some p ∨ ∃ task ∈ ts, p = i.newcomer task := by
  rw [List.getElem?_append] at h
  split at h
  · exact .inl h
  · obtain ⟨task, htask, rfl⟩ := List.mem_map.mp (List.mem_of_getElem? h)
    exact .inr ⟨task, htask, rfl⟩

/-- What holds of all parties but one, holds of those who join, and stays when a party moves. -/
theorem Course.forall_others {P : Party τ R A β → Prop}
    (henters : ∀ task, i.enters task → P (i.newcomer task))
    (hjoins : ∀ r, ∀ task ∈ i.joins r, P (i.newcomer task))
    (hanswer : ∀ task past r next a, P ⟨task, past, .ask r next⟩ →
      P ⟨task, past ++ [⟨r, a⟩], next a⟩)
    (hs : ∀ (k : Nat) p, k ≠ n → s.parties[k]? = some p → P p) (h : Course i s log u) :
    ∀ (k : Nat) p, k ≠ n → u.parties[k]? = some p → P p := by
  induction h with
  | stay => exact hs
  | move _ m ih =>
    intro k p hk hp
    cases m with
    | @join ps shared task henter =>
      rcases getElem?_newcomer [task] hp with hp | ⟨task', htask, rfl⟩
      · exact ih k p hk hp
      · exact List.mem_singleton.mp htask ▸ henters task henter
    | @answer ps shared shared' j task past r next a hasks ha =>
      -- a party that is not new is the one that moves, or stays as it was
      rcases getElem?_newcomer _ hp with hp | ⟨task', htask, rfl⟩
      · by_cases hj : j = k
        · subst hj
          rw [List.getElem?_set_self (List.getElem?_eq_some_iff.mp hasks).1] at hp
          cases hp
          exact hanswer _ _ _ _ _ (ih j _ hk hasks)
        · rw [List.getElem?_set_ne hj] at hp
          exact ih k p hk hp
      · exact hjoins r task' (Option.mem_toList.mp htask)

theorem Course.party_course {task : τ} {past : List (Exchange R A)} {p : Process R A β}
    (hp : s.parties[n]? = some ⟨task, past, p⟩) (h : Course i s log u) :
    ∃ q, u.parties[n]? = some ⟨task, past ++ share n log, q⟩ ∧
      Process.Course p (share n log) q := by
  induction h with
  | stay => exact ⟨p, by simpa [share] using hp, .stay p⟩
  | move _ m ih =>
    obtain ⟨q, hq, hcourse⟩ := ih
    rw [share, List.filterMap_append, ← share]
    cases m with
    | @join ps shared task' _ =>
      have hn := (List.getElem?_eq_some_iff.mp hq).1
      refine ⟨q, ?_, by simpa using hcourse⟩
      rw [List.getElem?_append_left hn, hq]
      simp
    | @answer ps shared shared' k task' past' r next a hasks _ =>
      by_cases hk : k = n
      · subst hk
        cases hq.symm.trans hasks
        refine ⟨next a, ?_, ?_⟩
        · simpa using getElem?_set_append hasks
        · simpa using hcourse.trans (.move a (.stay _))
      · have hn := (List.getElem?_eq_some_iff.mp hq).1
        refine ⟨q, ?_, by simpa [hk] using hcourse⟩
        rw [List.getElem?_append_left (by simpa using hn), List.getElem?_set_ne hk, hq]
        simp [hk]

/-- As long as a party lets nobody join and nobody enters, it is alone. -/
theorem Course.alone {p : Party τ R A β} (henters : ∀ task, ¬ i.enters task)
    (hs : s.parties = [p]) (hjoins : ∀ x ∈ share 0 log, i.joins x.request = none)
    (h : Course i s log u) : (∃ q, u.parties = [q]) ∧ ∀ x ∈ log, x.1 = 0 := by
  induction h with
  | stay => exact ⟨⟨p, hs⟩, by simp⟩
  | move _ m ih =>
    rw [share, List.filterMap_append] at hjoins
    obtain ⟨⟨q, hq⟩, hlog⟩ := ih fun x hx => hjoins x (List.mem_append_left _ hx)
    cases m with
    | join henter => exact absurd henter (henters _)
    | @answer ps shared shared' k task past r next a hasks _ =>
      cases hq
      obtain rfl : k = 0 := by simpa using (List.getElem?_eq_some_iff.mp hasks).1
      have hnobody : i.joins r = none := hjoins ⟨r, a⟩ (by simp)
      refine ⟨⟨⟨task, past ++ [⟨r, a⟩], next a⟩, by simp [newcomers, hnobody]⟩, fun x hx => ?_⟩
      rcases List.mem_append.mp hx with hx | hx
      · exact hlog x hx
      · rw [List.mem_singleton.mp hx]

theorem mem_of_mem_share {x : Exchange R A} (h : x ∈ share n log) : (n, x) ∈ log := by
  obtain ⟨⟨k, y⟩, hmem, hy⟩ := List.mem_filterMap.mp h
  obtain ⟨rfl, rfl⟩ : k = n ∧ y = x := by simpa using hy
  exact hmem

/-! ## Coming to an end -/

/-- If every request can be answered, a process can be served to its end. -/
theorem exists_serves {α : Type} (hanswers : ∀ s r, ∃ a s', i.answers s r a s')
    (p : Process R A α) (s : σ) :
    ∃ xs b s', p.Ends xs b ∧ i.Serves s xs s' := by
  induction p generalizing s with
  | done b => exact ⟨[], b, s, .stay _, .nil s⟩
  | ask r next ih =>
    obtain ⟨a, t, ha⟩ := hanswers s r
    obtain ⟨xs, b, s', hends, hserves⟩ := ih a t
    exact ⟨⟨r, a⟩ :: xs, b, s', .move a hends, .cons ha hserves⟩

end Automation.Interleaving
