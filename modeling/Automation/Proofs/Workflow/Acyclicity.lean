import Automation.Proofs.Workflow.Validity
import Mathlib.Data.List.Perm.Subperm
import Mathlib.Logic.Relation

/-!
# Workflows without cycles

A search that reports no cycle has brought the ids into an order in which each stands behind all
that it waits for. In such an order nothing waits for itself, not even by way of others.
-/

namespace Automation.Workflow

/-- Latest first: every id waits only for ids behind it, those that are not declared apart. -/
inductive Ordered (declared : List String) (dependencies : String → List String) :
    List String → Prop where
  | nil : Ordered declared dependencies []
  | cons {id : String} {done : List String} : Ordered declared dependencies done →
      (∀ d ∈ dependencies id, d ∈ declared → d ∈ done) →
        Ordered declared dependencies (id :: done)

/-- The first waits to be recorded before the second. -/
def Precedes (w : Workflow) (d id : String) : Prop := d ∈ w.dependenciesOf id

def Acyclic (w : Workflow) : Prop := ∀ id, ¬ Relation.TransGen w.Precedes id id

variable {registry : Registry} {w : Workflow} {declared done done' : List String}
  {dependencies : String → List String}

/-! ## The search -/

private theorem foldlM_visit {ε : Type} {visit : List String → String → Except ε (List String)}
    {Good : List String → Prop} {Seen : String → Prop} {ids : List String}
    (hvisit : ∀ id ∈ ids, ∀ done done', Good done → visit done id = .ok done' →
      Good done' ∧ done ⊆ done' ∧ (Seen id → id ∈ done'))
    (hdone : Good done) (h : ids.foldlM visit done = .ok done') :
    Good done' ∧ done ⊆ done' ∧ ∀ id ∈ ids, Seen id → id ∈ done' := by
  induction ids generalizing done with
  | nil =>
    obtain rfl : done = done' := Except.ok.inj h
    exact ⟨hdone, fun _ hx => hx, by simp⟩
  | cons id ids ih =>
    simp only [List.forall_mem_cons] at hvisit ⊢
    rw [List.foldlM_cons] at h
    cases hid : visit done id with
    | error cycle => simp [hid, bind, Except.bind] at h
    | ok mid =>
      obtain ⟨hmid, hsub, hseen⟩ := hvisit.1 done mid hdone hid
      simp only [hid, bind, Except.bind] at h
      obtain ⟨hgood, hsub', hall⟩ := ih hvisit.2 hmid h
      exact ⟨hgood, fun _ hx => hsub' (hsub hx), fun hs => hsub' (hseen hs), hall⟩

/-- A search that comes back without a cycle has put the id behind all that it waits for. Its path
leads through declared ids, each met once, so it never runs out of fuel. -/
theorem searchCycle_ordered {fuel : Nat} {path : List String} {id : String}
    (hpath : (id :: path).Nodup) (hsub : id :: path ⊆ declared)
    (hfuel : declared.length < fuel + path.length) (hdone : Ordered declared dependencies done)
    (h : searchCycle declared dependencies fuel path done id = .ok done') :
    Ordered declared dependencies done' ∧ done ⊆ done' ∧ id ∈ done' := by
  induction fuel generalizing path done done' id with
  | zero =>
    have hlen : path.length ≤ declared.length :=
      ((List.nodup_cons.mp hpath).2.subperm (List.subset_of_cons_subset hsub)).length_le
    omega
  | succ fuel ih =>
    rw [searchCycle] at h
    simp only [bind, Except.bind] at h
    split at h
    · simp at h
    · next mid hvisits =>
      obtain rfl : id :: mid = done' := Except.ok.inj h
      have hvisit (next : String) (_ : next ∈ dependencies id) (before after : List String)
          (hgood : Ordered declared dependencies before)
          (hnext : (if (id :: path).contains next then .error (closePath (id :: path) next)
            else if declared.contains next && !before.contains next then
              searchCycle declared dependencies fuel (id :: path) before next
            else .ok before) = Except.ok after) :
          Ordered declared dependencies after ∧ before ⊆ after ∧
            (next ∈ declared → next ∈ after) := by
        split at hnext
        · simp at hnext
        · next hout =>
          split at hnext
          · next hnew =>
            simp only [List.contains_eq_mem, decide_eq_true_eq, Bool.and_eq_true] at hout hnew
            obtain ⟨hord, hkeeps, hin⟩ := ih (List.nodup_cons.mpr ⟨hout, hpath⟩)
              (List.cons_subset.mpr ⟨hnew.1, hsub⟩) (by simp only [List.length_cons]; omega) hgood
              hnext
            exact ⟨hord, hkeeps, fun _ => hin⟩
          · next hold =>
            obtain rfl : before = after := Except.ok.inj hnext
            exact ⟨hgood, fun _ hx => hx, fun hdecl => by simpa [hdecl] using hold⟩
      obtain ⟨hord, hkeeps, hall⟩ := foldlM_visit hvisit hdone hvisits
      exact ⟨.cons hord hall, fun _ hx => List.mem_cons_of_mem _ (hkeeps hx), by simp⟩

theorem exists_ordered (h : w.findCycle = none) :
    ∃ done, Ordered (w.steps.map (·.id)) w.dependenciesOf done ∧ ∀ s ∈ w.steps, s.id ∈ done := by
  unfold findCycle at h
  dsimp only at h
  split at h
  · next done hvisits =>
    have hvisit (id : String) (hid : id ∈ w.steps.map (·.id)) (before after : List String)
        (hgood : Ordered (w.steps.map (·.id)) w.dependenciesOf before)
        (hnext : (if before.contains id then .ok before
          else searchCycle (w.steps.map (·.id)) w.dependenciesOf
            ((w.steps.map (·.id)).length + 1) [] before id) = Except.ok after) :
        Ordered (w.steps.map (·.id)) w.dependenciesOf after ∧ before ⊆ after ∧
          (True → id ∈ after) := by
      split at hnext
      · next hold =>
        obtain rfl : before = after := Except.ok.inj hnext
        exact ⟨hgood, fun _ hx => hx, fun _ => by simpa using hold⟩
      · have hsub : [id] ⊆ w.steps.map (·.id) := by simpa using hid
        obtain ⟨hord, hkeeps, hin⟩ := searchCycle_ordered (List.nodup_singleton id) hsub (by simp)
          hgood hnext
        exact ⟨hord, hkeeps, fun _ => hin⟩
    obtain ⟨hord, -, hall⟩ := foldlM_visit hvisit .nil hvisits
    exact ⟨done, hord, fun s hs => hall s.id (List.mem_map_of_mem hs) trivial⟩
  · simp at h

/-! ## The order -/

theorem Ordered.acc_declared (h : Ordered declared dependencies done) :
    ∀ id ∈ done, Acc (fun d id => d ∈ declared ∧ d ∈ dependencies id) id := by
  induction h with
  | nil => simp
  | cons _ hbehind ih =>
    rw [List.forall_mem_cons]
    exact ⟨⟨_, fun d hd => ih d (hbehind d hd.2 hd.1)⟩, ih⟩

private theorem Ordered.acc (h : Ordered declared dependencies done)
    (hdecl : ∀ id, ∀ d ∈ dependencies id, d ∈ declared) :
    ∀ id ∈ done, Acc (fun d id => d ∈ dependencies id) id := fun id hid =>
  Subrelation.accessible (fun {d id} hd => ⟨hdecl id d hd, hd⟩) (h.acc_declared id hid)

theorem Sound.declared_of_mem (hw : w.Sound registry)
    (hd : w.dependencies = dependencyMap w.steps) {p : String × List String}
    (hp : p ∈ w.dependencies) :
    p.1 ∈ w.steps.map (·.id) ∧ ∀ d ∈ p.2, d ∈ w.steps.map (·.id) := by
  rw [hd, dependencyMap] at hp
  obtain ⟨s, hs, rfl⟩ := List.mem_map.mp (Entries.mem_of_mem_ofList hp)
  exact ⟨List.mem_map_of_mem hs, fun d hdep => List.mem_map.mpr (hw.declared s hs d hdep)⟩

private theorem Precedes.exists_mem {d id : String} (h : w.Precedes d id) :
    ∃ ds, (id, ds) ∈ w.dependencies ∧ d ∈ ds := by
  unfold Precedes dependenciesOf at h
  cases hget : Entries.get? w.dependencies id with
  | none => simp [hget] at h
  | some ds => exact ⟨ds, Entries.mem_of_get? hget, by simpa [hget] using h⟩

/-- Where no cycle is found the ids can be worked through from those that wait for nothing. -/
theorem Sound.wellFounded (hw : w.Sound registry) (hd : w.dependencies = dependencyMap w.steps)
    (h : w.findCycle = none) : WellFounded w.Precedes := by
  obtain ⟨done, hord, hall⟩ := exists_ordered h
  have hdecl (id d : String) (hdep : d ∈ w.dependenciesOf id) : d ∈ w.steps.map (·.id) := by
    obtain ⟨ds, hmem, hds⟩ := Precedes.exists_mem hdep
    exact (hw.declared_of_mem hd hmem).2 d hds
  refine ⟨fun id => ⟨id, fun d hdep => ?_⟩⟩
  obtain ⟨s, hs, rfl⟩ := List.mem_map.mp (hdecl id d hdep)
  exact hord.acc hdecl s.id (hall s hs)

theorem acyclic_of_wellFounded (h : WellFounded w.Precedes) : w.Acyclic :=
  fun id hcycle => (h.transGen.asymmetric id id hcycle) hcycle

end Automation.Workflow
