import Automation.Proofs.Workflow.Answering
import Automation.Proofs.Workflow.Replacement

/-!
# What binding changes

Binding acts on the texts in a value one by one. If nothing that it fills in opens braces, it takes
away the placeholders that it fills and nothing else in braces: the references stay, and so do the
placeholders that are left open. Binding again changes nothing.
-/

namespace Automation

namespace Reference

open Json

private theorem colon_mem_of_ofChars? {cs : List Char} {r : Reference} (h : ofChars? cs = some r) :
    ':' ∈ Text.trimChars cs := by
  unfold ofChars? at h
  simp only [Option.bind_eq_bind, Option.bind_eq_some_iff] at h
  obtain ⟨rest, hlead, -⟩ := h
  rw [Text.eq_append_of_dropLead? hlead]
  exact List.mem_append_left _ (by decide)

/-- The references in double braces in a text, in order. -/
def embeddedInText (s : String) : List Reference := (embedded s.toList).map (·.reference)

/-- The references in double braces in the texts of a value, in order. -/
def embeddedIn (v : Value) : List Reference := v.leaves.flatMap embeddedInText

private theorem embeddedInText_eq (s : String) : embeddedInText s = Piece.found ofPiece? s.toList :=
  map_reference_embedded s.toList

end Reference

namespace Placeholder

open Json

variable {params : Params}

theorem map_placeholder_embedded (s : String) :
    (embedded s.toList).map (·.placeholder) = inText s := by
  simpa [embedded, inText, Piece.found, List.map_filterMap, Function.comp_def] using
    Piece.filterMap_place ofPiece? 0 (Piece.ofChars s.toList)

/-! ## Placeholders and references -/

private theorem notMem_of_isKey {cs : List Char} (h : isKey cs = true) : ':' ∉ cs := by
  cases cs with
  | nil => simp
  | cons c cs =>
    rw [isKey, Bool.and_eq_true, List.all_eq_true] at h
    rintro (_ | ⟨_, hmem⟩)
    · exact absurd h.1 (by decide)
    · exact absurd (h.2 _ hmem) (by decide)

/-- What stands between braces is not a placeholder and a reference at once. -/
theorem not_reference {inner : List Char} {q : Placeholder} (h : ofChars? inner = some q) :
    Reference.ofChars? inner = none := by
  rw [Option.eq_none_iff_forall_ne_some]
  intro r hr
  unfold ofChars? at h
  cases hbar : Text.cutWhere (· == '|') inner with
  | some p =>
    -- no character of a reference is a bar
    obtain ⟨c, hc, hbar⟩ := Text.exists_mem_of_cutWhere hbar
    rw [beq_iff_eq] at hbar
    subst hbar
    have hmem := Text.mem_stripChars hc (p := Text.isBlank) (by decide)
    exact absurd (Reference.mayHold_of_ofChars? hr _ hmem) (by decide)
  | none =>
    -- a name holds no colon, and a reference does
    rw [hbar] at h
    simp only [Option.ite_none_right_eq_some] at h
    exact notMem_of_isKey h.1 (Reference.colon_mem_of_ofChars? hr)

private theorem not_reference_of_ofPiece? {p : Piece} {q : Placeholder} (h : ofPiece? p = some q) :
    Reference.ofPiece? p = none := by
  cases p with
  | plain => rfl
  | braced inner => exact not_reference h

private theorem kept_reference (p : Piece) :
    kept params Reference.ofPiece? p = Reference.ofPiece? p := by
  unfold kept
  split
  · rfl
  · next hclosed =>
    cases hq : ofPiece? p with
    | none => simp [hq] at hclosed
    | some q => exact (not_reference_of_ofPiece? hq).symm

/-! ## Texts -/

private theorem boundChars_of_isOpen {cs : List Char}
    (h : ∀ q ∈ Piece.found ofPiece? cs, q.isOpen params = true) : boundChars params cs = cs := by
  have hpiece : ∀ p ∈ Piece.ofChars cs, (bindPiece params p).1 = p.chars := by
    intro p hp
    unfold bindPiece
    cases hq : ofPiece? p with
    | none => rfl
    | some q =>
      have hopen := h q (List.mem_filterMap.mpr ⟨p, hp, hq⟩)
      simp only [Option.isNone_iff_eq_none.mp hopen]
  rw [boundChars, List.flatMap_congr hpiece]
  exact Piece.join_ofChars cs

private theorem bindText_of_isOpen {s : String} (h : ∀ q ∈ inText s, q.isOpen params = true) :
    (bindText params s).1 = s := by
  rw [← String.toList_inj, toList_bindText, boundChars_of_isOpen h]

theorem bindPiece_eq (p : Piece) : bindPiece params p =
    (((ofPiece? p).bind (value? params)).getD p.chars, (ofPiece? p).any (isOpen params)) := by
  unfold bindPiece
  cases hq : ofPiece? p with
  | none => rfl
  | some q => cases hv : q.value? params <;> simp [isOpen, hv]

theorem bindText_snd (s : String) : (bindText params s).2 = (inText s).any (isOpen params) := by
  simp only [bindText, inText, Piece.found, List.any_filterMap, List.any_map, Function.comp_def,
    bindPiece_eq]
  rfl

theorem embeddedInText_bindText {s : String} (h : ∀ q ∈ inText s, q.Harmless params) :
    Reference.embeddedInText (bindText params s).1 = Reference.embeddedInText s := by
  rw [Reference.embeddedInText_eq, Reference.embeddedInText_eq, toList_bindText,
    found_boundChars (fun _ => rfl) h, funext kept_reference]

/-- The placeholders that are filled disappear, and nothing else in braces appears or disappears; it
is told whether one was left open; binding again changes nothing. -/
structure Settles {α : Type} (bind : α → α × Bool) (placeholdersOf : α → List Placeholder)
    (referencesOf : α → List Reference) (isOpen : Placeholder → Bool) (x : α) : Prop where
  placeholders : placeholdersOf (bind x).1 = (placeholdersOf x).filter isOpen
  references : referencesOf (bind x).1 = referencesOf x
  unbound : (bind x).2 = (placeholdersOf x).any isOpen
  again : bind (bind x).1 = bind x

private theorem bindText_settles {s : String} (h : ∀ q ∈ inText s, q.Harmless params) :
    Settles (bindText params) inText Reference.embeddedInText (isOpen params) s := by
  have hopen := inText_bindText h
  refine ⟨hopen, embeddedInText_bindText h, bindText_snd s, Prod.ext ?_ ?_⟩
  · apply bindText_of_isOpen
    rw [hopen]
    exact fun q hq => (List.mem_filter.mp hq).2
  · rw [bindText_snd, bindText_snd, hopen, List.any_filter]
    simp

/-! ## Values -/

theorem keysIn_eq_flatMap (v : Value) : keysIn v = v.leaves.flatMap keysInText := by
  rw [keysIn_eq, inValue_eq_flatMap, List.map_flatMap]
  exact List.flatMap_congr fun s _ => (keysInText_eq s).symm

mutual

theorem bind_snd (v : Value) : (bind params v).2 = (inValue v).any (isOpen params) := by
  cases v with
  | null | bool | number => rfl
  | string s => exact bindText_snd s
  | array items => exact bindItems_snd items
  | object members => exact bindMembers_snd members

theorem bindItems_snd (items : List Value) :
    (bindItems params items).2 = (inItems items).any (isOpen params) := by
  cases items with
  | nil => rfl
  | cons v rest =>
    simp only [bindItems, inItems, List.any_append]
    rw [bind_snd v, bindItems_snd rest]

theorem bindMembers_snd (members : List (String × Value)) :
    (bindMembers params members).2 = (inMembers members).any (isOpen params) := by
  cases members with
  | nil => rfl
  | cons m rest =>
    obtain ⟨k, v⟩ := m
    simp only [bindMembers, inMembers, List.any_append]
    rw [bind_snd v, bindMembers_snd rest]

end

mutual

theorem bind_of_isOpen (v : Value) (h : ∀ q ∈ inValue v, q.isOpen params = true) :
    (bind params v).1 = v := by
  cases v with
  | null | bool | number => rfl
  | string s => exact congrArg Value.string (bindText_of_isOpen h)
  | array items => exact congrArg Value.array (bindItems_of_isOpen items h)
  | object members => exact congrArg Value.object (bindMembers_of_isOpen members h)

theorem bindItems_of_isOpen (items : List Value) (h : ∀ q ∈ inItems items, q.isOpen params = true) :
    (bindItems params items).1 = items := by
  cases items with
  | nil => rfl
  | cons v rest =>
    rw [inItems, List.forall_mem_append] at h
    simp only [bindItems]
    rw [bind_of_isOpen v h.1, bindItems_of_isOpen rest h.2]

theorem bindMembers_of_isOpen (members : List (String × Value))
    (h : ∀ q ∈ inMembers members, q.isOpen params = true) :
    (bindMembers params members).1 = members := by
  cases members with
  | nil => rfl
  | cons m rest =>
    obtain ⟨k, v⟩ := m
    rw [inMembers, List.forall_mem_append] at h
    simp only [bindMembers]
    rw [bind_of_isOpen v h.1, bindMembers_of_isOpen rest h.2]

end

private theorem embeddedIn_bind {v : Value} (h : ∀ q ∈ inValue v, q.Harmless params) :
    Reference.embeddedIn (bind params v).1 = Reference.embeddedIn v := by
  rw [inValue_eq_flatMap] at h
  rw [Reference.embeddedIn, Reference.embeddedIn, leaves_bind, List.flatMap_map]
  apply List.flatMap_congr
  intro s hs
  exact embeddedInText_bindText fun q hq => h q (List.mem_flatMap.mpr ⟨s, hs, hq⟩)

private theorem bind_settles {v : Value} (h : ∀ q ∈ inValue v, q.Harmless params) :
    Settles (bind params) inValue Reference.embeddedIn (isOpen params) v := by
  have hopen := inValue_bind v h
  refine ⟨hopen, embeddedIn_bind h, bind_snd v, Prod.ext ?_ ?_⟩
  · apply bind_of_isOpen
    rw [hopen]
    exact fun q hq => (List.mem_filter.mp hq).2
  · rw [bind_snd, bind_snd, hopen, List.any_filter]
    simp

/-- If nothing that is filled in opens braces, binding a text, or a value of any depth,
takes away exactly the placeholders that have a parameter or a default. -/
theorem binding_settles (params : Params) :
    (∀ s : String, (∀ e ∈ embedded s.toList, e.placeholder.Harmless params) →
      Settles (bindText params) (fun s => (embedded s.toList).map (·.placeholder))
        Reference.embeddedInText (isOpen params) s) ∧
    ∀ v : Value, (∀ q ∈ inValue v, q.Harmless params) →
      Settles (bind params) inValue Reference.embeddedIn (isOpen params) v := by
  refine ⟨fun s h => ?_, fun v h => bind_settles h⟩
  rw [funext map_placeholder_embedded]
  apply bindText_settles
  rw [← map_placeholder_embedded]
  simpa using h

/-- A greeting: two placeholders are filled, the reference and the third placeholder stay. -/
theorem binding_settles_greeting :
    let params : Params := [("who", "Ann")]
    let s := "Hi \x7b\x7bwho\x7d\x7d, \x7b\x7bstep:a.output\x7d\x7d" ++
      "\x7b\x7bend|!\x7d\x7d \x7b\x7bps\x7d\x7d"
    (∀ e ∈ embedded s.toList, e.placeholder.Harmless params) ∧
      (∀ q ∈ inValue (.array [.string s]), q.Harmless params) ∧
      bindText params s = ("Hi Ann, \x7b\x7bstep:a.output\x7d\x7d! \x7b\x7bps\x7d\x7d", true) ∧
      Settles (bindText params) (fun s => (embedded s.toList).map (·.placeholder))
        Reference.embeddedInText (isOpen params) s ∧
      Settles (bind params) inValue Reference.embeddedIn (isOpen params) (.array [.string s]) := by
  intro params s
  have htext : ∀ e ∈ embedded s.toList, e.placeholder.Harmless params := by decide +kernel
  have hvalue : ∀ q ∈ inValue (.array [.string s]), q.Harmless params := by decide +kernel
  exact ⟨htext, hvalue, by decide +kernel, (binding_settles params).1 s htext,
    (binding_settles params).2 _ hvalue⟩

end Placeholder

end Automation
