import Automation.Proofs.Entries
import Automation.Workflow.Reference

/-!
# What a resolution depends on

Replacing the references in a value looks at no outputs but those that the references name, and it
fails only where one of these references fails.
-/

namespace Automation.Outputs

open Json

/-- Outputs that hold the same for the references of a value are alike for it. -/
def Alike (o o' : Outputs) (rs : List Reference) : Prop :=
  ∀ r ∈ rs, Entries.get? o r.stepId = Entries.get? o' r.stepId

private theorem lookup_congr {o o' : Outputs} {r : Reference}
    (h : Entries.get? o r.stepId = Entries.get? o' r.stepId) : lookup o r = lookup o' r := by
  rw [lookup, lookup, h]

theorem lookup_error {o : Outputs} {r : Reference} {e : Error} (h : lookup o r = .error e) :
    (Entries.get? o r.stepId = none ∧ e = .noOutput r) ∨
      ∃ output field, Entries.get? o r.stepId = some output ∧ r.field = some field ∧
        output.member? field = none ∧ e = .noField r field := by
  unfold lookup at h
  cases ho : Entries.get? o r.stepId with
  | none =>
    simp only [ho, Except.error.injEq] at h
    exact .inl ⟨rfl, h.symm⟩
  | some output =>
    cases hf : r.field with
    | none => simp [ho, hf] at h
    | some field =>
      cases hm : output.member? field with
      | none =>
        simp only [ho, hf, hm, Except.error.injEq] at h
        exact .inr ⟨output, field, rfl, rfl, hm, h.symm⟩
      | some v => simp [ho, hf, hm] at h

/-! ## Texts -/

private theorem mapM_congr {α β ε : Type} {f g : α → Except ε β} {xs : List α}
    (h : ∀ x ∈ xs, f x = g x) : xs.mapM f = xs.mapM g := by
  induction xs with
  | nil => rfl
  | cons x xs ih =>
    simp only [List.forall_mem_cons] at h
    rw [List.mapM_cons, List.mapM_cons, h.1, ih h.2]

private theorem mapM_error {α β ε : Type} {f : α → Except ε β} {xs : List α} {e : ε}
    (h : xs.mapM f = .error e) : ∃ x ∈ xs, f x = .error e := by
  induction xs with
  | nil => simp [pure, Except.pure] at h
  | cons x xs ih =>
    rw [List.mapM_cons] at h
    cases hx : f x with
    | error e' =>
      simp only [hx, bind, Except.bind, Except.error.injEq] at h
      exact ⟨x, by simp, by rw [hx, h]⟩
    | ok y =>
      cases hxs : xs.mapM f with
      | error e' =>
        simp only [hx, hxs, bind, Except.bind, Except.error.injEq] at h
        obtain ⟨z, hz, he⟩ := ih (by rw [hxs, h])
        exact ⟨z, List.mem_cons_of_mem _ hz, he⟩
      | ok ys => simp [hx, hxs, bind, Except.bind, pure, Except.pure] at h

private theorem resolveText_congr {o o' : Outputs} {s : String}
    (h : Alike o o' (Reference.inText s)) : resolveText o s = resolveText o' s := by
  unfold resolveText
  unfold Reference.inText at h
  cases hs : Reference.ofText? s with
  | some r =>
    rw [hs] at h
    exact lookup_congr (h r (by simp))
  | none =>
    rw [hs] at h
    have hpieces : (Piece.ofChars s.toList).mapM (resolvePiece o) =
        (Piece.ofChars s.toList).mapM (resolvePiece o') := by
      apply mapM_congr
      intro p hp
      unfold resolvePiece
      cases hr : Reference.ofPiece? p with
      | none => rfl
      | some r =>
        have hl := lookup_congr (h r (List.mem_filterMap.mpr ⟨p, hp, hr⟩))
        simp only [hl]
    simp only [hpieces]

theorem resolveText_error {o : Outputs} {s : String} {e : Error}
    (h : resolveText o s = .error e) : ∃ r ∈ Reference.inText s, lookup o r = .error e := by
  unfold resolveText at h
  unfold Reference.inText
  cases hs : Reference.ofText? s with
  | some r =>
    rw [hs] at h
    exact ⟨r, by simp, h⟩
  | none =>
    rw [hs] at h
    cases hm : (Piece.ofChars s.toList).mapM (resolvePiece o) with
    | ok parts => simp [hm, bind, Except.bind, pure, Except.pure] at h
    | error e' =>
      simp only [hm, bind, Except.bind, Except.error.injEq] at h
      subst h
      obtain ⟨p, hp, he⟩ := mapM_error hm
      unfold resolvePiece at he
      cases hr : Reference.ofPiece? p with
      | none => simp [hr] at he
      | some r =>
        refine ⟨r, List.mem_filterMap.mpr ⟨p, hp, hr⟩, ?_⟩
        cases hl : lookup o r with
        | ok v => simp [hr, hl, Except.map] at he
        | error e'' => simpa [hr, hl, Except.map] using he

/-! ## Values -/

mutual

theorem resolve_congr {o o' : Outputs} (v : Value) (h : Alike o o' (Reference.inValue v)) :
    resolve o v = resolve o' v := by
  match v with
  | .string s =>
    rw [resolve, resolve]
    exact resolveText_congr (by simpa only [Reference.inValue] using h)
  | .array items =>
    rw [resolve, resolve, resolveItems_congr items (by simpa only [Reference.inValue] using h)]
  | .object members =>
    rw [resolve, resolve, resolveMembers_congr members (by simpa only [Reference.inValue] using h)]
  | .null => simp only [resolve]
  | .bool _ => simp only [resolve]
  | .number _ => simp only [resolve]

theorem resolveItems_congr {o o' : Outputs} (items : List Value)
    (h : Alike o o' (Reference.inItems items)) : resolveItems o items = resolveItems o' items := by
  match items with
  | [] => simp only [resolveItems]
  | v :: rest =>
    simp only [Reference.inItems, Alike, List.forall_mem_append] at h
    rw [resolveItems, resolveItems, resolve_congr v h.1, resolveItems_congr rest h.2]

theorem resolveMembers_congr {o o' : Outputs} (members : List (String × Value))
    (h : Alike o o' (Reference.inMembers members)) :
    resolveMembers o members = resolveMembers o' members := by
  match members with
  | [] => simp only [resolveMembers]
  | (k, v) :: rest =>
    simp only [Reference.inMembers, Alike, List.forall_mem_append] at h
    rw [resolveMembers, resolveMembers, resolve_congr v h.1, resolveMembers_congr rest h.2]

end

mutual

theorem resolve_error {o : Outputs} {e : Error} (v : Value) (h : resolve o v = .error e) :
    ∃ r ∈ Reference.inValue v, lookup o r = .error e := by
  match v with
  | .string s =>
    rw [resolve] at h
    simpa only [Reference.inValue] using resolveText_error h
  | .array items =>
    rw [resolve] at h
    cases hi : resolveItems o items with
    | ok ws => simp [hi, Except.map] at h
    | error e' =>
      simp only [hi, Except.map, Except.error.injEq] at h
      subst h
      simpa only [Reference.inValue] using resolveItems_error items hi
  | .object members =>
    rw [resolve] at h
    cases hm : resolveMembers o members with
    | ok ws => simp [hm, Except.map] at h
    | error e' =>
      simp only [hm, Except.map, Except.error.injEq] at h
      subst h
      simpa only [Reference.inValue] using resolveMembers_error members hm
  | .null => simp [resolve] at h
  | .bool _ => simp [resolve] at h
  | .number _ => simp [resolve] at h

theorem resolveItems_error {o : Outputs} {e : Error} (items : List Value)
    (h : resolveItems o items = .error e) :
    ∃ r ∈ Reference.inItems items, lookup o r = .error e := by
  match items with
  | [] => simp [resolveItems] at h
  | v :: rest =>
    rw [resolveItems] at h
    cases hv : resolve o v with
    | error e' =>
      simp only [hv, bind, Except.bind, Except.error.injEq] at h
      subst h
      obtain ⟨r, hr, he⟩ := resolve_error v hv
      exact ⟨r, by simp [Reference.inItems, hr], he⟩
    | ok w =>
      cases hi : resolveItems o rest with
      | ok ws => simp [hv, hi, bind, Except.bind, pure, Except.pure] at h
      | error e' =>
        simp only [hv, hi, bind, Except.bind, Except.error.injEq] at h
        subst h
        obtain ⟨r, hr, he⟩ := resolveItems_error rest hi
        exact ⟨r, by simp [Reference.inItems, hr], he⟩

theorem resolveMembers_error {o : Outputs} {e : Error} (members : List (String × Value))
    (h : resolveMembers o members = .error e) :
    ∃ r ∈ Reference.inMembers members, lookup o r = .error e := by
  match members with
  | [] => simp [resolveMembers] at h
  | (k, v) :: rest =>
    rw [resolveMembers] at h
    cases hv : resolve o v with
    | error e' =>
      simp only [hv, bind, Except.bind, Except.error.injEq] at h
      subst h
      obtain ⟨r, hr, he⟩ := resolve_error v hv
      exact ⟨r, by simp [Reference.inMembers, hr], he⟩
    | ok w =>
      cases hi : resolveMembers o rest with
      | ok ws => simp [hv, hi, bind, Except.bind, pure, Except.pure] at h
      | error e' =>
        simp only [hv, hi, bind, Except.bind, Except.error.injEq] at h
        subst h
        obtain ⟨r, hr, he⟩ := resolveMembers_error rest hi
        exact ⟨r, by simp [Reference.inMembers, hr], he⟩

end

/-! ## What a resolution gives -/

/-- Only null and a reference that stands for it become null. -/
theorem resolve_eq_null {o : Outputs} {v : Value} (h : resolve o v = .ok .null) :
    v = .null ∨ ∃ s r, v = .string s ∧ Reference.ofText? s = some r ∧ lookup o r = .ok .null := by
  cases v with
  | null => exact .inl rfl
  | bool b => simp [resolve] at h
  | number n => simp [resolve] at h
  | array items =>
    rw [resolve] at h
    cases hi : resolveItems o items <;> simp [hi, Except.map] at h
  | object members =>
    rw [resolve] at h
    cases hm : resolveMembers o members <;> simp [hm, Except.map] at h
  | string s =>
    rw [resolve, resolveText] at h
    split at h
    · next r hr => exact .inr ⟨s, r, rfl, hr, h⟩
    · cases hm : (Piece.ofChars s.toList).mapM (resolvePiece o) <;>
        simp [hm, bind, Except.bind, pure, Except.pure] at h

theorem get?_resolveMembers {o : Outputs} {ms ms' : Members} (h : resolveMembers o ms = .ok ms')
    {key : String} {v : Value} (hv : Entries.get? ms key = some v) :
    ∃ v', resolve o v = .ok v' ∧ Entries.get? ms' key = some v' := by
  induction ms generalizing ms' with
  | nil => simp at hv
  | cons m ms ih =>
    obtain ⟨k, u⟩ := m
    rw [resolveMembers] at h
    cases hu : resolve o u with
    | error e => simp [hu, bind, Except.bind] at h
    | ok u' =>
      cases hrest : resolveMembers o ms with
      | error e => simp [hu, hrest, bind, Except.bind] at h
      | ok rest =>
        simp only [hu, hrest, bind, Except.bind, pure, Except.pure, Except.ok.injEq] at h
        subst h
        rw [Entries.get?_cons] at hv ⊢
        split at hv
        · next hk =>
          obtain rfl := Option.some.inj hv
          exact ⟨u', hu, if_pos hk⟩
        · next hk =>
          obtain ⟨v', hv', hget⟩ := ih hrest hv
          exact ⟨v', hv', by rw [if_neg hk, hget]⟩

end Automation.Outputs
