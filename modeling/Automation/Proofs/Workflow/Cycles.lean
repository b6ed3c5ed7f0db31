import Automation.Proofs.Workflow.Acyclicity
import Mathlib.Data.List.Chain

/-!
# Cycles among steps

Validation calls a workflow circular just if a declared step waits for itself, at once or by way of
other declared steps. This holds for every workflow, also if ids are declared twice or steps wait
for ids that nobody declares. The path that is reported is a cycle that meets no step twice.
-/

namespace Automation

namespace Workflow

/-- A path that leads from an id back to it, by links, and meets no id twice on its way. -/
structure IsCycle (linked : String → String → Prop) (path : List String) : Prop where
  closed : ∃ id between, path = id :: (between ++ [id]) ∧ (id :: between).Nodup
  linked : path.IsChain linked

/-- The first id waits for the second, and both are declared. -/
def Awaits (declared : List String) (dependencies : String → List String) (id d : String) : Prop :=
  id ∈ declared ∧ d ∈ declared ∧ d ∈ dependencies id

/-- The step with the first id waits for a step with the second. -/
def Links (w : Workflow) : String → String → Prop :=
  Awaits (w.steps.map (·.id)) w.dependenciesOf

variable {w : Workflow} {declared done : List String} {dependencies : String → List String}

/-! ## What is reported is a cycle -/

private theorem IsCycle.transGen {linked : String → String → Prop} {path : List String}
    (h : IsCycle linked path) : ∃ id, Relation.TransGen linked id id := by
  -- the two ends of the path have to differ for the induction on what lies between them
  have hend (between : List String) (x y : String)
      (hchain : (x :: (between ++ [y])).IsChain linked) : Relation.TransGen linked x y := by
    induction between generalizing x with
    | nil => exact .single (List.isChain_pair.mp hchain)
    | cons z between ih =>
      obtain ⟨hxz, hrest⟩ := List.isChain_cons_cons.mp hchain
      exact .head hxz (ih z hrest)
  obtain ⟨id, between, rfl, -⟩ := h.closed
  exact ⟨id, hend between id id h.linked⟩

private theorem isCycle_closePath {linked : String → String → Prop} {path : List String}
    {next : String}
    (hnodup : path.Nodup) (hchain : path.IsChain fun x y => linked y x) (hmem : next ∈ path)
    (hhead : ∀ id ∈ path.head?, linked id next) : IsCycle linked (closePath path next) := by
  obtain ⟨since, before, rfl, hout⟩ := List.eq_append_cons_of_mem hmem
  have hsince : (since ++ next :: before).takeWhile (· ≠ next) = since := by
    rw [List.takeWhile_append_of_pos, List.takeWhile_cons_of_neg (by simp), List.append_nil]
    intro id hid
    simpa using fun he : id = next => hout (he ▸ hid)
  have hpath : closePath (since ++ next :: before) next = (next :: (since ++ [next])).reverse := by
    rw [closePath, hsince]
    simp
  rw [hpath]
  constructor
  case closed =>
    refine ⟨next, since.reverse, by simp, ?_⟩
    have hsub : (since ++ [next]).Nodup :=
      hnodup.sublist (List.Sublist.append_left (List.singleton_sublist.mpr (by simp)) since)
    rw [← List.nodup_reverse] at hsub
    simpa using hsub
  case linked =>
    rw [List.isChain_reverse, List.isChain_cons]
    constructor
    · intro id hid
      exact hhead id (by cases since <;> simpa using hid)
    · exact hchain.prefix ⟨before, by simp⟩

private theorem foldlM_error {ε α β : Type} {visit : β → α → Except ε β} {items : List α} {b : β}
    {e : ε} (h : items.foldlM visit b = .error e) : ∃ x ∈ items, ∃ b', visit b' x = .error e := by
  induction items generalizing b with
  | nil => simp [pure, Except.pure] at h
  | cons x items ih =>
    rw [List.foldlM_cons] at h
    cases hx : visit b x with
    | error e' =>
      simp only [hx, bind, Except.bind, Except.error.injEq] at h
      exact ⟨x, by simp, b, by rw [hx, h]⟩
    | ok b' =>
      simp only [hx, bind, Except.bind] at h
      obtain ⟨y, hy, hb⟩ := ih h
      exact ⟨y, List.mem_cons_of_mem _ hy, hb⟩

/-- A search reports a cycle if the path that it comes by leads through declared ids, each once. -/
theorem searchCycle_isCycle {fuel : Nat} {path cycle : List String} {id : String}
    (hnodup : (id :: path).Nodup) (hsub : id :: path ⊆ declared)
    (hchain : (id :: path).IsChain fun x y => Awaits declared dependencies y x)
    (h : searchCycle declared dependencies fuel path done id = .error cycle) :
    IsCycle (Awaits declared dependencies) cycle := by
  -- what is visited next lies on the path, and closes it, or it makes the path longer
  induction fuel generalizing path done id with
  | zero => simp [searchCycle] at h
  | succ fuel ih =>
    rw [searchCycle] at h
    simp only [bind, Except.bind] at h
    split at h
    · next hvisits =>
      obtain rfl := Except.error.inj h
      obtain ⟨next, hnext, done', hvisit⟩ := foldlM_error hvisits
      split at hvisit
      · next hon =>
        obtain rfl := Except.error.inj hvisit
        have hmem : next ∈ id :: path := by simpa using hon
        refine isCycle_closePath hnodup hchain hmem fun x hx => ?_
        obtain rfl : id = x := by simpa using hx
        exact ⟨hsub (by simp), hsub hmem, hnext⟩
      · next hoff =>
        split at hvisit
        · next hnew =>
          simp only [List.contains_eq_mem, decide_eq_true_eq, Bool.and_eq_true] at hoff hnew
          refine ih (List.nodup_cons.mpr ⟨hoff, hnodup⟩) (List.cons_subset.mpr ⟨hnew.1, hsub⟩) ?_
            hvisit
          exact List.isChain_cons_cons.mpr ⟨⟨hsub (by simp), hnew.1, hnext⟩, hchain⟩
        · cases hvisit
    · cases h

private theorem findCycle_isCycle {path : List String} (h : w.findCycle = some path) :
    IsCycle w.Links path := by
  unfold findCycle at h
  dsimp only at h
  split at h
  · simp at h
  · next cycle hvisits =>
    obtain rfl := Option.some.inj h
    obtain ⟨id, hid, done, hvisit⟩ := foldlM_error hvisits
    split at hvisit
    · simp at hvisit
    · exact searchCycle_isCycle (List.nodup_singleton id) (by simpa using hid)
        (List.isChain_singleton id) hvisit

/-! ## Every cycle is reported -/

private theorem not_transGen_of_findCycle (h : w.findCycle = none) (id : String) :
    ¬ Relation.TransGen w.Links id id := by
  obtain ⟨done, hord, hall⟩ := exists_ordered h
  have hacc (id : String) : Acc (fun d id => w.Links id d) id := by
    refine ⟨_, fun d hd => ?_⟩
    obtain ⟨s, hs, rfl⟩ := List.mem_map.mp hd.2.1
    refine Subrelation.accessible (fun {x y} hxy => ?_) (hord.acc_declared s.id (hall s hs))
    exact ⟨hxy.2.1, hxy.2.2⟩
  intro hcycle
  -- `TransGen` goes along the links, the order by which we descend against them
  have hwf : WellFounded fun d id => w.Links id d := ⟨hacc⟩
  have hswap : Relation.TransGen (fun d id => w.Links id d) id id :=
    Relation.transGen_swap.mp hcycle
  exact hwf.transGen.asymmetric id id hswap hswap

private theorem findCycle_ne_none_iff :
    w.findCycle ≠ none ↔ ∃ id, Relation.TransGen w.Links id id := by
  constructor
  · intro hne
    obtain ⟨path, hpath⟩ := Option.ne_none_iff_exists'.mp hne
    exact (findCycle_isCycle hpath).transGen
  · rintro ⟨id, hcycle⟩ hnone
    exact not_transGen_of_findCycle hnone id hcycle

end Workflow

namespace Compiler

variable {registry : Registry} {w : Workflow} {e : String}

/-! ## The report -/

/-- What a report on a cycle begins with. -/
def circular : String := "circular dependency detected: "

/-- The problem says that steps wait for each other. -/
def SaysCircular (problem : String) : Prop := circular.toList <+: problem.toList

/-- The problem that is reported for a cycle. -/
def circularProblem (path : List String) : String := circular ++ String.intercalate " -> " path

private theorem not_saysCircular {problem : String} (h : problem.toList.head? ≠ some 'c') :
    ¬ SaysCircular problem := by
  rintro ⟨rest, hrest⟩
  rw [← hrest] at h
  exact h rfl

private theorem not_saysCircular_of_stepErrors {ids : List String} {s : Step} {problem : String}
    (h : problem ∈ stepErrors registry ids s) : ¬ SaysCircular problem := by
  apply not_saysCircular
  unfold stepErrors at h
  simp only [List.mem_append, List.mem_map] at h
  rcases h with (⟨d, -, rfl⟩ | ⟨r, -, rfl⟩) | h
  · simp [toString]
  · simp [toString]
  · split at h
    · obtain rfl := List.mem_singleton.mp h
      simp [toString]
    · split at h
      · obtain rfl := List.mem_singleton.mp h
        simp [toString]
      · cases h

private theorem exists_findCycle {problem : String} (h : problem ∈ (validate registry w).errors)
    (hcircular : SaysCircular problem) :
    ∃ path, w.findCycle = some path ∧ problem = circularProblem path := by
  simp only [validate, Report.of, List.mem_append, List.mem_map, List.mem_flatMap] at h
  rcases h with ((hempty | ⟨id, -, rfl⟩) | ⟨s, -, hstep⟩) | hcycle
  · split at hempty
    · obtain rfl := List.mem_singleton.mp hempty
      exact absurd hcircular (not_saysCircular (by decide))
    · cases hempty
  · exact absurd hcircular (not_saysCircular (by simp [toString]))
  · exact absurd hcircular (not_saysCircular_of_stepErrors hstep)
  · split at hcycle
    · next path hpath => exact ⟨path, hpath, List.mem_singleton.mp hcycle⟩
    · cases hcycle

private theorem mem_errors_of_findCycle {path : List String} (h : w.findCycle = some path) :
    circularProblem path ∈ (validate registry w).errors := by
  simp only [validate, Report.of, h]
  exact List.mem_append_right _ (List.mem_singleton.mpr rfl)

/-- Validation says that steps wait for each other just if declared steps do: some step leads back
to itself by what the dependency map says of declared ids. What it reports then is such a cycle. -/
theorem validate_circular (registry : Registry) (w : Workflow) :
    ((∃ problem ∈ (validate registry w).errors, SaysCircular problem) ↔
      ∃ id, Relation.TransGen w.Links id id) ∧
    ∀ problem ∈ (validate registry w).errors, SaysCircular problem →
      ∃ path, problem = circularProblem path ∧ Workflow.IsCycle w.Links path := by
  refine ⟨⟨?_, ?_⟩, ?_⟩
  · rintro ⟨problem, hmem, hcircular⟩
    obtain ⟨path, hpath, -⟩ := exists_findCycle hmem hcircular
    exact (Workflow.findCycle_isCycle hpath).transGen
  · intro hcycle
    obtain ⟨path, hpath⟩ :=
      Option.ne_none_iff_exists'.mp (Workflow.findCycle_ne_none_iff.mpr hcycle)
    refine ⟨_, mem_errors_of_findCycle hpath, (String.intercalate " -> " path).toList, ?_⟩
    rw [circularProblem, String.toList_append]
  · intro problem hmem hcircular
    obtain ⟨path, hpath, rfl⟩ := exists_findCycle hmem hcircular
    exact ⟨path, rfl, Workflow.findCycle_isCycle hpath⟩

example : circularProblem ["a", "b", "a"] = "circular dependency detected: a -> b -> a" := by decide

end Compiler

end Automation
