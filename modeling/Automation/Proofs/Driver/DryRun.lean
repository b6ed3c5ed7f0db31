import Automation.Driver.Bench
import Automation.Proofs.Entries
import Automation.Proofs.Workflow.Resolution
import Automation.Proofs.Workflow.Validity

/-!
# Validation and the check of a dry-run driver

A dry-run driver looks at what it declares when it is called. Validation has looked at the same
declaration before, at parameters whose references were not replaced yet. So a required parameter
can be missing in the call only if a reference fills it and stands for null.
-/

namespace Automation

open Json

/-! ## What a dry-run driver answers -/

namespace DryRun

variable {d : DryRun} {id : Id} {operation : String} {parameters : Members} {o : Operation}

/-- What the message begins with; it differs from one kind of error to another. -/
def Error.initial : Error → Char
  | .operationNotFound _ _ => 'o'
  | .missingParams _ _ => 'i'
  | .executionFailed _ _ => 'e'

private theorem Error.head?_message (e : Error) : e.message.toList.head? = some e.initial := by
  unfold message
  split <;> simp [toString, initial]

theorem answer_info (d : DryRun) (id : Id) (operation : String) (parameters : Members) :
    (d.answer id operation parameters).2.info = d.info := by
  have hscripted : (d.scripted id operation parameters).2.info = d.info := by
    unfold scripted
    repeat' split
    all_goals rfl
  unfold answer
  split
  · rfl
  · split
    all_goals
      next heq =>
        rw [heq] at hscripted
        exact hscripted

private theorem scripted_error {e : Error} (h : (d.scripted id operation parameters).1 = .error e) :
    e.initial = 'e' := by
  unfold scripted at h
  split at h
  · cases h
    rfl
  · split at h
    · cases h
      rfl
    · split at h <;> cases h

private theorem answer_failed {e : Error}
    (h : (d.answer id operation parameters).1 = .failed e.message) :
    e.initial = 'e' ∨ ∃ e', d.check operation parameters = .error e' ∧ e'.initial = e.initial := by
  -- the message tells the kind of the error, though not which error it is
  have hinitial {e' : Error} (he : Outcome.failed e'.message = .failed e.message) :
      e'.initial = e.initial := by
    have hmessage : e'.message = e.message := by simpa [Outcome.failed] using he
    have hhead := e'.head?_message
    rw [hmessage, e.head?_message] at hhead
    exact (Option.some.inj hhead).symm
  unfold answer at h
  split at h
  · next e' hcheck => exact .inr ⟨e', hcheck, hinitial h⟩
  · split at h
    · cases h
    · next e' next hscripted =>
      have he' : e'.initial = 'e' := scripted_error (congrArg Prod.fst hscripted)
      exact .inl ((hinitial h).symm.trans he')

private theorem check_error (ho : d.info.operation? operation = some o) {e : Error}
    (h : d.check operation parameters = .error e) :
    e.initial = 'i' ∧ missing o parameters ≠ [] := by
  rw [check, ho] at h
  dsimp only at h
  split at h
  · cases h
  · next hne =>
    cases h
    exact ⟨rfl, hne⟩

theorem answer_ne_operationNotFound (ho : d.info.operation? operation = some o)
    (driver name : String) :
    (d.answer id operation parameters).1 ≠
      .failed (Error.operationNotFound driver name).message := by
  intro h
  rcases answer_failed h with he | ⟨e', hcheck, he⟩
  · cases he
  · rw [(check_error ho hcheck).1] at he
    cases he

theorem exists_missing (ho : d.info.operation? operation = some o) {name : String}
    {names : List String}
    (h : (d.answer id operation parameters).1 = .failed (Error.missingParams name names).message) :
    ∃ p ∈ o.required,
      Entries.get? parameters p = none ∨ Entries.get? parameters p = some .null := by
  rcases answer_failed h with he | ⟨e', hcheck, -⟩
  · cases he
  · obtain ⟨p, hp⟩ := List.exists_mem_of_ne_nil _ (check_error ho hcheck).2
    obtain ⟨hrequired, hnull⟩ := List.mem_filter.mp hp
    refine ⟨p, hrequired, ?_⟩
    cases hget : Entries.get? parameters p with
    | none => exact .inl rfl
    | some v =>
      rw [hget] at hnull
      cases v <;> first | exact .inr rfl | cases hnull

example : check { info := ⟨"mail", "", [⟨"send", "", ["to"], []⟩]⟩ } "send" [("to", .null)] =
    .error (.missingParams "send" ["to"]) := rfl

end DryRun

/-! ## What validation has looked at -/

namespace Compiler

variable {registry : Registry} {s : Step} {p : String}

theorem operation?_of_supports {info : DriverInfo}
    (h : registry.supports s.driver s.operation = true)
    (hinfo : Entries.get? registry.drivers s.driver = some info) :
    ∃ o, info.operation? s.operation = some o ∧
      requiredOf registry s.driver s.operation = o.required := by
  have hfind : registry.find s.driver = .ok info := by rw [Registry.find, hinfo]
  cases ho : info.operation? s.operation with
  | none =>
    simp [Registry.supports, Registry.operation, hfind, ho, bind, Except.bind] at h
  | some o =>
    refine ⟨o, rfl, ?_⟩
    simp [requiredOf, Registry.requiredParams, Registry.operation, hfind, ho, bind, Except.bind,
      Except.map]

/-- A required parameter that validation accepted is there and is not null when references are
replaced, unless a reference fills it and stands for null. -/
theorem null_of_missing {o : Outputs} {parameters : Members}
    (h : missingNames p (Entries.get? s.parameters p) = [])
    (hresolve : Outputs.resolveMembers o s.parameters = .ok parameters)
    (hnull : Entries.get? parameters p = none ∨ Entries.get? parameters p = some .null) :
    ∃ text ref, Entries.get? s.parameters p = some (.string text) ∧
      Reference.ofText? text = some ref ∧ o.lookup ref = .ok .null := by
  cases hget : Entries.get? s.parameters p with
  | none =>
    rw [hget] at h
    cases h
  | some v =>
    obtain ⟨v', hv, hget'⟩ := Outputs.get?_resolveMembers hresolve hget
    rw [hget'] at hnull
    obtain rfl : v' = .null := by simpa using hnull
    rcases Outputs.resolve_eq_null hv with rfl | ⟨text, ref, rfl, href, hlookup⟩
    · rw [hget] at h
      cases h
    · exact ⟨text, ref, rfl, href, hlookup⟩

end Compiler

end Automation
