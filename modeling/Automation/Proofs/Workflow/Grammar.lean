import Automation.Proofs.Workflow.Substitution

/-!
# How a reference is written

A text is read as a reference exactly if, without the blanks around it, it is `step:`, a name and
`.output`, or the same with a dot and a second name behind it. Reading and printing undo each other:
a printed reference is the text without the blanks, and it is read as the reference again.
-/

namespace Automation.Reference

/-- An ASCII letter or digit, an underscore or a hyphen. -/
def IsNameLetter (c : Char) : Prop :=
  ('a' ≤ c ∧ c ≤ 'z') ∨ ('A' ≤ c ∧ c ≤ 'Z') ∨ ('0' ≤ c ∧ c ≤ '9') ∨ c = '_' ∨ c = '-'

/-- One or more of these characters. -/
structure Name (s : String) : Prop where
  ne_empty : s ≠ ""
  letters : ∀ c ∈ s.toList, IsNameLetter c

/-- The texts that stand for the output of a step, or for a field of it. -/
inductive Written : String → Prop where
  | output {id : String} : Name id → Written ("step:" ++ id ++ ".output")
  | field {id field : String} : Name id → Name field →
      Written ("step:" ++ id ++ ".output." ++ field)

/-- The step, and the field if one is meant, have names. -/
structure Named (r : Reference) : Prop where
  stepId : Name r.stepId
  field : ∀ f, r.field = some f → Name f

variable {cs : List Char} {r : Reference}

/-! ## Names -/

private theorem isNameChar_iff {c : Char} : isNameChar c = true ↔ IsNameLetter c := by
  have hletter : c.isAlpha = (decide ('A'.val ≤ c.val ∧ c.val ≤ 'Z'.val) ||
      (decide ('a'.val ≤ c.val) && decide (c.val ≤ 'z'.val))) := rfl
  simp only [isNameChar, Text.isAsciiAlphanumeric, hletter, Char.isDigit, Bool.or_eq_true,
    Bool.and_eq_true, decide_eq_true_eq, beq_iff_eq, ge_iff_le, IsNameLetter, Char.le_def]
  tauto

private theorem isName_iff : isName cs = true ↔ Name (String.ofList cs) := by
  constructor
  · intro h
    rw [isName, Bool.and_eq_true, List.all_eq_true] at h
    refine ⟨fun hempty => ?_, fun c hc => ?_⟩
    · rw [String.ofList_eq_empty_iff.mp hempty] at h
      cases h.1
    · rw [String.toList_ofList] at hc
      exact isNameChar_iff.mp (h.2 c hc)
  · rintro ⟨hne, hletters⟩
    rw [String.toList_ofList] at hletters
    rw [isName, Bool.and_eq_true, List.all_eq_true]
    refine ⟨?_, fun c hc => isNameChar_iff.mpr (hletters c hc)⟩
    simpa [String.ofList_eq_empty_iff] using hne

private theorem isName_toList {s : String} : isName s.toList = true ↔ Name s := by
  rw [isName_iff, String.ofList_toList]

private theorem dot_notMem_of_name {s : String} (h : Name s) : '.' ∉ s.toList := by
  intro hmem
  exact absurd (isNameChar_iff.mpr (h.letters _ hmem)) (by decide)

private theorem isBlank_of_isNameChar {c : Char} (h : isNameChar c = true) :
    Text.isBlank c = false := by
  have hval : c.toNat = c.val.toNat := rfl
  have hbounds : 'A'.val.toNat = 65 ∧ 'Z'.val.toNat = 90 ∧ 'a'.val.toNat = 97 ∧
      'z'.val.toNat = 122 ∧ '0'.val.toNat = 48 ∧ '9'.val.toNat = 57 := by decide
  rcases isNameChar_iff.mp h with h | h | h | rfl | rfl
  case inr.inr.inr.inl | inr.inr.inr.inr => decide
  all_goals
    simp only [Char.le_def, UInt32.le_iff_toNat_le] at h
    simp only [Text.isBlank, Bool.or_eq_false_iff, Bool.and_eq_false_iff, decide_eq_false_iff_not,
      beq_eq_false_iff_ne]
    omega

/-! ## Printing -/

/-- What is written behind `.output`. -/
def tail (r : Reference) : List Char := r.field.elim [] fun f => '.' :: f.toList

private theorem toList_render (r : Reference) :
    r.render.toList = lead ++ (r.stepId.toList ++ (outputMark ++ r.tail)) := by
  have hlead : "step:".toList = lead := rfl
  have hmark : ".output".toList = outputMark := rfl
  have hdot : ".".toList = ['.'] := rfl
  cases hf : r.field <;> simp [render, tail, hf, hlead, hmark, hdot]

private theorem mayHold_of_named (h : r.Named) : ∀ c ∈ r.render.toList, mayHold c = true := by
  have hlead : lead.all mayHold = true := by decide
  have hmark : outputMark.all mayHold = true := by decide
  have htail : ∀ c ∈ r.tail, mayHold c = true := by
    unfold tail
    cases hf : r.field with
    | none => exact nofun
    | some f =>
      exact List.forall_mem_cons.mpr ⟨rfl, mayHold_of_isName (isName_toList.mpr (h.field f hf))⟩
  rw [List.all_eq_true] at hlead hmark
  simp only [toList_render, List.forall_mem_append]
  exact ⟨hlead, mayHold_of_isName (isName_toList.mpr h.stepId), hmark, htail⟩

private theorem trim_render (h : r.Named) : Text.trim r.render = r.render := by
  have hsolid : ∀ c ∈ r.render.toList, Text.isBlank c = false := by
    intro c hc
    have hmay := mayHold_of_named h c hc
    simp only [mayHold, Bool.or_eq_true, beq_iff_eq] at hmay
    rcases hmay with (hname | rfl) | rfl
    · exact isBlank_of_isNameChar hname
    · decide
    · decide
  rw [Text.trim, Text.trimChars, Text.stripChars_of_forall hsolid, String.ofList_toList]

private theorem named_of_name {id : String} (h : Name id) : Named ⟨id, none⟩ :=
  ⟨h, fun f hf => by cases hf⟩

private theorem render_field (id field : String) :
    render ⟨id, some field⟩ = "step:" ++ id ++ ".output." ++ field := by
  have hmark : ".output." = ".output" ++ "." := rfl
  simp only [render, hmark, String.append_assoc]

/-- The texts of the grammar are the printed references. -/
theorem written_iff {s : String} : Written s ↔ ∃ r : Reference, r.Named ∧ r.render = s := by
  constructor
  · intro h
    cases h with
    | @output id hid => exact ⟨⟨id, none⟩, named_of_name hid, rfl⟩
    | @field id field hid hfield =>
      have hnamed : Named ⟨id, some field⟩ := ⟨hid, fun f hf => Option.some.inj hf ▸ hfield⟩
      exact ⟨⟨id, some field⟩, hnamed, render_field id field⟩
  · rintro ⟨⟨id, field⟩, ⟨hid, hfield⟩, rfl⟩
    cases field with
    | none => exact .output hid
    | some f =>
      rw [render_field]
      exact .field hid (hfield f rfl)

/-! ## Reading -/

private theorem named_of_ofChars? (h : ofChars? cs = some r) :
    r.Named ∧ r.render.toList = Text.trimChars cs := by
  unfold ofChars? at h
  simp only [Option.bind_eq_bind, Option.bind_eq_some_iff, Prod.exists] at h
  obtain ⟨rest, hlead, id, tail, hcut, h⟩ := h
  have hcs := Text.eq_append_of_dropLead? hlead
  rw [Text.eq_append_of_cutAt hcut, List.append_assoc] at hcs
  split at h
  · cases h
  · next hid =>
    have hid : Name (String.ofList id) := isName_iff.mp (by simpa using hid)
    split at h
    · cases h
      exact ⟨named_of_name hid, by rw [toList_render, hcs, String.toList_ofList]; rfl⟩
    · next field =>
      split at h
      · next hfield =>
        cases h
        refine ⟨⟨hid, fun f hf => ?_⟩, ?_⟩
        · cases hf
          exact isName_iff.mp hfield
        · rw [toList_render, hcs, String.toList_ofList]
          simp [Reference.tail]
      · cases h
    · cases h

private theorem ofChars?_of_named (h : r.Named) (hcs : r.render.toList = Text.trimChars cs) :
    ofChars? cs = some r := by
  obtain ⟨rest, hlead, hcut⟩ : ∃ rest, Text.dropLead? lead (Text.trimChars cs) = some rest ∧
      Text.cutAt outputMark rest = some (r.stepId.toList, r.tail) := by
    refine ⟨r.stepId.toList ++ (outputMark ++ r.tail), ?_, ?_⟩
    · rw [← hcs, toList_render, Text.dropLead?_append]
    · -- a name holds no dot, so the first mark is the one behind the step
      have hclear : Text.Clear outputMark r.stepId.toList :=
        Text.clear_of_notMem (dot_notMem_of_name h.stepId)
      exact hclear.cutAt_append r.tail
  have hid : isName r.stepId.toList = true := isName_toList.mpr h.stepId
  obtain ⟨id, field⟩ := r
  cases field with
  | none => simp [ofChars?, hlead, hcut, hid, tail]
  | some f =>
    have hfield : isName f.toList = true := isName_toList.mpr (h.field f rfl)
    simp [ofChars?, hlead, hcut, hid, hfield, tail]

private theorem ofText?_eq_some_iff {t : String} :
    ofText? t = some r ↔ r.Named ∧ r.render = Text.trim t := by
  rw [Text.trim, ← String.toList_inj, String.toList_ofList]
  exact ⟨named_of_ofChars?, fun h => ofChars?_of_named h.1 h.2⟩

/-- A text is read as a reference exactly if it is written like one, blanks around it apart; the
reference is the one that prints as the text without the blanks; and a printed reference is read as
that reference exactly if its step and its field have names. -/
theorem read_iff_written :
    (∀ t, (∃ r, ofText? t = some r) ↔ Written (Text.trim t)) ∧
      (∀ t r, ofText? t = some r ↔ r.Named ∧ r.render = Text.trim t) ∧
      ∀ r : Reference, ofText? r.render = some r ↔ r.Named := by
  refine ⟨fun t => ?_, fun t r => ofText?_eq_some_iff, fun r => ?_⟩
  · rw [written_iff]
    exact exists_congr fun r => ofText?_eq_some_iff
  · rw [ofText?_eq_some_iff]
    exact ⟨And.left, fun h => ⟨h, (trim_render h).symm⟩⟩

example : ofText? "step:output.output.output" = some ⟨"output", some "output"⟩ := by decide

end Automation.Reference
