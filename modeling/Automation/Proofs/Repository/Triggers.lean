import Automation.Repository.Memory

/-!
# Triggers in a repository

A repository keeps triggers if it answers with what is stored and if a stored trigger changes only
by a status or a time that is recorded for it. One in memory does, also when it fails at any time.
-/

namespace Automation

/-- How a repository answers its requests, and what becomes of it. -/
abbrev Answering (ρ : Type) := ρ → (r : RepositoryRequest) → r.Answer → ρ → Prop

/-- What becomes of the trigger under an id when a request is answered. -/
def RepositoryRequest.effect (id : Id) (r : RepositoryRequest) (a : r.Answer) (t : Trigger) :
    Trigger :=
  match r, a with
  | .setStatus id' status, .ok _ => if id' = id then { t with status } else t
  | .stampTrigger id' time, .ok _ => if id' = id then { t with lastTriggered := some time } else t
  | _, _ => t

theorem RepositoryRequest.effect_error (id : Id) (r : RepositoryRequest) (e : RepositoryError)
    (t : Trigger) : r.effect id (.error e) t = t := by
  cases r <;> rfl

/-- The valid states stay valid, the answers are what is stored in them, and of what is stored only
the effects of requests are changed. -/
structure KeepsTriggers {ρ : Type} (rep : Answering ρ) (valid : ρ → Prop)
    (stored : ρ → Id → Option Trigger) : Prop where
  preserves {m m' : ρ} {r : RepositoryRequest} {a : r.Answer} : valid m → rep m r a m' → valid m'
  got {m m' : ρ} {id : Id} {t? : Option Trigger} : valid m → rep m (.getTrigger id) (.ok t?) m' →
    stored m id = t?
  listed {m m' : ρ} {ts : List Trigger} : valid m → rep m .activeTriggers (.ok ts) m' →
    (ts.map (·.id)).Nodup ∧ ∀ t ∈ ts, stored m t.id = some t
  kept {m m' : ρ} {r : RepositoryRequest} {a : r.Answer} {id : Id} {t : Trigger} : valid m →
    rep m r a m' → stored m id = some t → stored m' id = some (r.effect id a t)

namespace Memory

/-- Different triggers have different ids. -/
def Distinct (m : Memory) : Prop := (m.triggers.map (·.id)).Nodup

instance (m : Memory) : Decidable m.Distinct := inferInstanceAs (Decidable (List.Nodup _))

/-- A request is answered, or fails and changes nothing. -/
def answering : Answering Memory :=
  fun m r a m' => (a, m') = answer r m ∨ ∃ e, a = .error e ∧ m' = m

theorem trigger?_of_mem {m : Memory} (hm : m.Distinct) {t : Trigger} (ht : t ∈ m.triggers) :
    m.trigger? t.id = some t := by
  unfold Distinct at hm
  unfold trigger?
  generalize m.triggers = ts at hm ht
  induction ts with
  | nil => cases ht
  | cons u us ih =>
    rw [List.map_cons, List.nodup_cons] at hm
    rcases List.mem_cons.mp ht with rfl | ht
    · simp
    · have hne : u.id ≠ t.id := fun heq => hm.1 (heq ▸ List.mem_map_of_mem ht)
      rw [List.find?_cons_of_neg (by simpa using hne)]
      exact ih hm.2 ht

theorem eq_of_id_eq {m : Memory} (hm : m.Distinct) {t u : Trigger} (ht : t ∈ m.triggers)
    (hu : u ∈ m.triggers) (hid : u.id = t.id) : u = t := by
  have hsame := trigger?_of_mem hm hu
  rw [hid, trigger?_of_mem hm ht] at hsame
  exact (Option.some.inj hsame).symm

private theorem id_of_trigger? {m : Memory} {id : Id} {t : Trigger} (h : m.trigger? id = some t) :
    t.id = id := by
  have hid := List.find?_some h
  simpa using hid

theorem any_triggers (m : Memory) (id : Id) :
    m.triggers.any (fun t => decide (t.id = id)) = (m.trigger? id).isSome := by
  rw [Bool.eq_iff_iff, List.any_eq_true, trigger?, List.find?_isSome]

theorem createTrigger_eq (m : Memory) (t : Trigger) :
    m.createTrigger t =
      if (m.trigger? t.id).isSome then
        .error (.failed ("trigger " ++ t.id.text ++ " already exists"))
      else .ok { m with triggers := m.triggers ++ [t] } := by
  rw [createTrigger, any_triggers]

theorem updateTrigger_eq (m : Memory) (id : Id) (f : Trigger → Trigger) :
    m.updateTrigger id f =
      if (m.trigger? id).isSome then
        .ok { m with triggers := m.triggers.map fun t => if t.id = id then f t else t }
      else .error (.triggerNotFound id) := by
  rw [updateTrigger, any_triggers]

private theorem updated_trigger? {m : Memory} {id : Id} {t : Trigger} (h : m.trigger? id = some t)
    (id' : Id) {f : Trigger → Trigger} (hf : ∀ t, (f t).id = t.id) :
    (m.written (m.updateTrigger id' f)).2.trigger? id =
      some (match (m.written (m.updateTrigger id' f)).1 with
        | .ok _ => if id' = id then f t else t
        | .error _ => t) := by
  unfold updateTrigger
  split
  · have hkey : (fun u : Trigger => decide (u.id = id)) ∘
        (fun u => if u.id = id' then f u else u) = fun u => decide (u.id = id) := by
      funext u
      by_cases hu : u.id = id' <;> simp [hu, hf]
    have hid := id_of_trigger? h
    unfold trigger? at h
    simp only [written, trigger?, List.find?_map, hkey, h, Option.map_some, hid]
    by_cases heq : id = id' <;> simp [heq, eq_comm]
  · exact h

theorem updated_distinct {m : Memory} (hm : m.Distinct) (id : Id) {f : Trigger → Trigger}
    (hf : ∀ t, (f t).id = t.id) : (m.written (m.updateTrigger id f)).2.Distinct := by
  unfold updateTrigger
  split
  · have hids : (fun t : Trigger => t.id) ∘ (fun t => if t.id = id then f t else t) =
        fun t => t.id := by
      funext t
      by_cases ht : t.id = id <;> simp [ht, hf]
    simpa only [Distinct, written, List.map_map, hids] using hm
  · exact hm

theorem created_distinct {m : Memory} (hm : m.Distinct) (t : Trigger) :
    (m.written (m.createTrigger t)).2.Distinct := by
  unfold createTrigger
  split
  · exact hm
  · next hnew =>
    have hnot : ∀ u ∈ m.triggers, ¬ u.id = t.id := by simpa using hnew
    simpa [Distinct, written, List.nodup_append] using And.intro hm hnot

private theorem created_trigger? {m : Memory} {id : Id} {t : Trigger} (h : m.trigger? id = some t)
    (t' : Trigger) : (m.written (m.createTrigger t')).2.trigger? id = some t := by
  unfold createTrigger
  split
  · exact h
  · unfold trigger? at h
    simp [written, trigger?, List.find?_append, h]

private theorem answer_distinct {m : Memory} (hm : m.Distinct) (r : RepositoryRequest) :
    (answer r m).2.Distinct := by
  cases r with
  | createTrigger t => exact created_distinct hm t
  | stampTrigger id time => exact updated_distinct hm id fun _ => rfl
  | setStatus id status => exact updated_distinct hm id fun _ => rfl
  | _ => exact hm

private theorem answer_trigger? {m : Memory} {id : Id} {t : Trigger} (h : m.trigger? id = some t)
    (r : RepositoryRequest) :
    (answer r m).2.trigger? id = some (r.effect id (answer r m).1 t) := by
  cases r with
  | createTrigger t' => exact created_trigger? h t'
  | stampTrigger id' time =>
    have hupdated := updated_trigger? h id' (f := fun t => { t with lastTriggered := some time })
      fun _ => rfl
    refine hupdated.trans ?_
    change _ = some (RepositoryRequest.effect id (.stampTrigger id' time) (m.written _).1 t)
    cases (m.written _).1 <;> rfl
  | setStatus id' status =>
    have hupdated := updated_trigger? h id' (f := fun t => { t with status }) fun _ => rfl
    refine hupdated.trans ?_
    change _ = some (RepositoryRequest.effect id (.setStatus id' status) (m.written _).1 t)
    cases (m.written _).1 <;> rfl
  | _ => exact h

/-- A repository in memory keeps its triggers, also if it may fail. -/
theorem keepsTriggers : KeepsTriggers answering Distinct trigger? where
  preserves := by
    rintro m m' r a hm (h | ⟨e, -, rfl⟩)
    · obtain ⟨-, rfl⟩ := Prod.mk.inj h
      exact answer_distinct hm r
    · exact hm
  got := by
    rintro m m' id t? hm (h | ⟨e, h, -⟩)
    · obtain ⟨h, -⟩ := Prod.mk.inj h
      cases h
      rfl
    · cases h
  listed := by
    rintro m m' ts hm (h | ⟨e, h, -⟩)
    · obtain ⟨h, -⟩ := Prod.mk.inj h
      cases h
      refine ⟨hm.sublist (List.filter_sublist.map _), fun t ht => ?_⟩
      exact trigger?_of_mem hm (List.mem_filter.mp ht).1
    · cases h
  kept := by
    rintro m m' r a id t hm (h | ⟨e, rfl, rfl⟩) ht
    · obtain ⟨rfl, rfl⟩ := Prod.mk.inj h
      exact answer_trigger? ht r
    · rw [r.effect_error]
      exact ht

end Memory

end Automation
