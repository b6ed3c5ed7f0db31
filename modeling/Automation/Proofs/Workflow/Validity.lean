import Automation.Proofs.Entries
import Automation.Proofs.Text
import Automation.Workflow.Compile
import Mathlib.Data.List.Nodup

/-!
# What a valid workflow is

A compiled workflow without structural errors has steps with different ids, drivers that support
their operations, and a dependency map that leads from every step to what it declares and to what
its parameters refer to, all of it among the steps.
-/

namespace Automation

namespace Step

private theorem mem_distinct {names : List String} {n : String} :
    n ∈ distinct names ↔ n ∈ names := by
  rw [distinct, Text.mem_foldl_distinct]
  simp

private theorem mem_dependencies {s : Step} {d : String} :
    d ∈ s.dependencies ↔ d ∈ s.dependsOn ∨ d ∈ s.referencedSteps := by
  rw [dependencies, Entries.mem_keys_ofList]
  simp

theorem mem_dependencies_of_reference {s : Step} {r : Reference}
    (h : r ∈ Reference.inMembers s.parameters) : r.stepId ∈ s.dependencies := by
  rw [mem_dependencies, referencedSteps, mem_distinct]
  exact .inr (List.mem_map_of_mem h)

end Step

namespace Workflow

/-- What validation stands for, and that the dependency map is that of the steps. -/
structure Sound (registry : Registry) (w : Workflow) : Prop where
  nonempty : w.steps ≠ []
  ids : (w.steps.map (·.id)).Nodup
  declared : ∀ s ∈ w.steps, ∀ d ∈ s.dependencies, ∃ t ∈ w.steps, t.id = d
  supported : ∀ s ∈ w.steps, registry.has s.driver ∧ registry.supports s.driver s.operation
  dependencies : ∀ s ∈ w.steps, w.dependenciesOf s.id = s.dependencies

private theorem dependenciesOf_eq {w : Workflow} (hn : (w.steps.map (·.id)).Nodup)
    (hd : w.dependencies = dependencyMap w.steps) {s : Step} (hs : s ∈ w.steps) :
    w.dependenciesOf s.id = s.dependencies := by
  have hget : Entries.get? w.dependencies s.id = some s.dependencies := by
    rw [hd, dependencyMap, Entries.get?_ofList]
    apply Entries.get?_of_mem
    · rw [List.map_reverse, List.nodup_reverse, List.map_map]
      exact hn
    · rw [List.mem_reverse]
      exact List.mem_map_of_mem (f := fun s : Step => (s.id, s.dependencies)) hs
  rw [dependenciesOf, hget, Option.getD_some]

end Workflow

namespace Compiler

private theorem duplicateIds_eq_nil {seen ids : List String} (h : duplicateIds seen ids = []) :
    ids.Nodup ∧ ∀ id ∈ ids, id ∉ seen := by
  induction ids generalizing seen with
  | nil => simp
  | cons id ids ih =>
    unfold duplicateIds at h
    split at h
    · simp at h
    · next hid =>
      obtain ⟨hn, hout⟩ := ih h
      refine ⟨List.nodup_cons.mpr ⟨fun hm => hout id hm (by simp), hn⟩, ?_⟩
      intro x hx
      rcases List.mem_cons.mp hx with rfl | hx
      · simpa using hid
      · exact fun hs => hout x hx (List.mem_cons_of_mem _ hs)

private theorem stepErrors_eq_nil {registry : Registry} {ids : List String} {s : Step}
    (h : stepErrors registry ids s = []) :
    (∀ d ∈ s.dependencies, d ∈ ids) ∧
      registry.has s.driver ∧ registry.supports s.driver s.operation := by
  simp only [stepErrors, List.append_eq_nil_iff, List.map_eq_nil_iff, List.filter_eq_nil_iff,
    Bool.not_eq_true', List.contains_eq_mem, decide_eq_false_iff_not, not_not] at h
  obtain ⟨⟨hdep, href⟩, hdriver⟩ := h
  refine ⟨fun d hd => ?_, ?_⟩
  · rcases Step.mem_dependencies.mp hd with hd | hd
    · exact hdep d hd
    · exact href d hd
  · split at hdriver
    · simp at hdriver
    · next hhas =>
      split at hdriver
      · simp at hdriver
      · next hsup => exact ⟨by simpa using hhas, by simpa using hsup⟩

private theorem validate_isValid_iff {registry : Registry} {w : Workflow} :
    (validate registry w).isValid = true ↔
      (validate registry w).missing = [] ∧ (validate registry w).errors = [] := by
  change ((validate registry w).missing.isEmpty && (validate registry w).errors.isEmpty) = true ↔ _
  rw [Bool.and_eq_true, List.isEmpty_iff, List.isEmpty_iff]

theorem validate_errors {registry : Registry} {w : Workflow}
    (h : (validate registry w).isValid = true) : (validate registry w).errors = [] :=
  (validate_isValid_iff.mp h).2

theorem mem_addNew {names new : List String} {n : String} :
    n ∈ addNew names new ↔ n ∈ names ∨ n ∈ new := Text.mem_foldl_distinct

private theorem validate_missingNames {registry : Registry} {w : Workflow}
    (h : (validate registry w).isValid = true) {s : Step} (hs : s ∈ w.steps) {p : String}
    (hp : p ∈ requiredOf registry s.driver s.operation) :
    missingNames p (Entries.get? s.parameters p) = [] := by
  have hmissing : addNew [] (w.steps.flatMap (stepMissing registry)) = [] :=
    (validate_isValid_iff.mp h).1
  rw [List.eq_nil_iff_forall_not_mem]
  intro n hn
  have hstep : n ∈ stepMissing registry s := List.mem_flatMap.mpr ⟨p, hp, hn⟩
  have hadded : n ∈ addNew [] (w.steps.flatMap (stepMissing registry)) :=
    mem_addNew.mpr (.inr (List.mem_flatMap.mpr ⟨s, hs, hstep⟩))
  rw [hmissing] at hadded
  cases hadded

private theorem validate_findCycle {registry : Registry} {w : Workflow}
    (h : (validate registry w).isValid = true) : w.findCycle = none := by
  have herr := validate_errors h
  simp only [validate, Report.of, List.append_eq_nil_iff] at herr
  have hcycle := herr.2
  split at hcycle
  · simp at hcycle
  · next hnone => exact hnone

/-- A workflow that passes validation is sound if its dependency map is that of its steps. -/
theorem validate_sound {registry : Registry} {w : Workflow}
    (h : (validate registry w).isValid = true)
    (hd : w.dependencies = Workflow.dependencyMap w.steps) : w.Sound registry := by
  have herr := validate_errors h
  simp only [validate, Report.of, List.append_eq_nil_iff] at herr
  obtain ⟨⟨⟨hempty, hdup⟩, hsteps⟩, -⟩ := herr
  rw [List.map_eq_nil_iff] at hdup
  have hids := (duplicateIds_eq_nil hdup).1
  have hstep := fun s hs => stepErrors_eq_nil (List.flatMap_eq_nil_iff.mp hsteps s hs)
  constructor
  case nonempty =>
    intro hnil
    simp [hnil] at hempty
  case ids => exact hids
  case declared =>
    intro s hs d hd
    exact List.mem_map.mp ((hstep s hs).1 d hd)
  case supported => exact fun s hs => (hstep s hs).2
  case dependencies => exact fun s hs => Workflow.dependenciesOf_eq hids hd hs

/-- A workflow that is compiled without complaint is sound for the compiler's registry. -/
theorem compile_sound {c : Compiler} {id : Id} {now : Time.Instant} {b : Blueprint}
    {params : Params} (h : (c.compile id now b params).validation.isValid = true) :
    (c.compile id now b params).Sound c.registry := by
  obtain ⟨h₁, h₂, h₃, h₄, h₅⟩ := validate_sound h rfl
  exact ⟨h₁, h₂, h₃, h₄, h₅⟩

theorem compile_missingNames {c : Compiler} {id : Id} {now : Time.Instant} {b : Blueprint}
    {params : Params} (h : (c.compile id now b params).validation.isValid = true) {s : Step}
    (hs : s ∈ (c.compile id now b params).steps) {p : String}
    (hp : p ∈ requiredOf c.registry s.driver s.operation) :
    missingNames p (Entries.get? s.parameters p) = [] := by
  have hnames := validate_missingNames h hs hp
  exact hnames

theorem compile_findCycle {c : Compiler} {id : Id} {now : Time.Instant} {b : Blueprint}
    {params : Params} (h : (c.compile id now b params).validation.isValid = true) :
    (c.compile id now b params).findCycle = none := by
  have hcycle := validate_findCycle h
  exact hcycle

end Compiler

end Automation
