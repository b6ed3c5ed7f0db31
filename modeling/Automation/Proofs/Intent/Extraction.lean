import Automation.Intent.Classifier
import Automation.Proofs.Entries
import Automation.Proofs.Text

/-!
# Values that are found

Every value found in a message or told by a model has no blanks around it and is not empty: values
of patterns are trimmed, several recipients are joined between the first and the last, a cadence is
written in digits and words, and the text of a JSON value begins and ends with a mark of its own.
-/

namespace Automation

namespace Text

/-- The text is not empty, and there are no blanks around it. -/
structure Trimmed (s : String) : Prop where
  trim_eq : trim s = s
  nonempty : s ≠ ""

variable {s t : String}

private theorem trimmed_iff :
    Trimmed s ↔ ∃ c d, s.toList.head? = some c ∧ s.toList.getLast? = some d ∧
    isBlank c = false ∧ isBlank d = false := by
  have htrim : trim s = s ↔ stripChars isBlank s.toList = s.toList := by
    rw [← String.toList_inj, trim, String.toList_ofList, trimChars]
  constructor
  · rintro ⟨heq, hne⟩
    obtain ⟨hhead, hlast⟩ := stripChars_eq_self_iff.mp (htrim.mp heq)
    have hchars : s.toList ≠ [] := by simpa using hne
    refine ⟨s.toList.head hchars, s.toList.getLast hchars, List.head?_eq_some_head hchars,
      List.getLast?_eq_some_getLast hchars, hhead _ (List.head?_eq_some_head hchars),
      hlast _ (List.getLast?_eq_some_getLast hchars)⟩
  · rintro ⟨c, d, hc, hd, hhead, hlast⟩
    refine ⟨htrim.mpr (stripChars_eq_self_iff.mpr ⟨?_, ?_⟩), ?_⟩
    · intro e he
      obtain rfl : c = e := Option.some.inj (hc.symm.trans he)
      exact hhead
    · intro e he
      obtain rfl : d = e := Option.some.inj (hd.symm.trans he)
      exact hlast
    · rintro rfl
      cases hc

private theorem Trimmed.append (hs : Trimmed s) (ht : Trimmed t) (between : String) :
    Trimmed (s ++ between ++ t) := by
  obtain ⟨c, -, hc, -, hhead, -⟩ := trimmed_iff.mp hs
  obtain ⟨-, d, -, hd, -, hlast⟩ := trimmed_iff.mp ht
  refine trimmed_iff.mpr ⟨c, d, ?_, ?_, hhead, hlast⟩
  · simp [List.head?_append, hc]
  · simp [List.getLast?_append, hd]

private theorem trimmed_of_forall (hne : s ≠ "") (h : ∀ c ∈ s.toList, isBlank c = false) :
    Trimmed s := by
  have hchars : s.toList ≠ [] := by simpa using hne
  exact trimmed_iff.mpr ⟨s.toList.head hchars, s.toList.getLast hchars,
    List.head?_eq_some_head hchars, List.getLast?_eq_some_getLast hchars,
    h _ (List.head_mem hchars), h _ (List.getLast_mem hchars)⟩

private theorem trimmed_intercalate {between : String} {items : List String} (hne : items ≠ [])
    (h : ∀ s ∈ items, Trimmed s) : Trimmed (String.intercalate between items) := by
  induction items with
  | nil => exact absurd rfl hne
  | cons s items ih =>
    obtain ⟨hs, hitems⟩ := List.forall_mem_cons.mp h
    cases items with
    | nil => rwa [String.intercalate_singleton]
    | cons t items =>
      rw [String.intercalate_cons_cons]
      exact hs.append (ih (List.cons_ne_nil t items) hitems) between

private theorem isBlankText_of_trim_eq_empty (h : trim s = "") : isBlankText s = true := by
  rw [isBlankText, List.all_eq_true]
  intro c hc
  by_contra hblank
  have hmem := mem_stripChars hc (Bool.eq_false_iff.mpr hblank)
  rw [trim, String.ofList_eq_empty_iff, trimChars] at h
  exact List.not_mem_nil (h ▸ hmem)

private theorem isBlank_of_isDigit {c : Char} (h : c.isDigit = true) : isBlank c = false := by
  have hval : c.toNat = c.val.toNat := rfl
  simp only [Char.isDigit, Bool.and_eq_true, decide_eq_true_eq, ge_iff_le,
    UInt32.le_iff_toNat_le] at h
  have hbounds : '0'.val.toNat = 48 ∧ '9'.val.toNat = 57 := ⟨rfl, rfl⟩
  simp only [isBlank, Bool.or_eq_false_iff, Bool.and_eq_false_iff, decide_eq_false_iff_not,
    beq_eq_false_iff_ne]
  omega

private theorem isBlank_of_mem_repr {n : Nat} {c : Char} (h : c ∈ (Nat.repr n).toList) :
    isBlank c = false := by
  rw [Nat.toList_repr] at h
  exact isBlank_of_isDigit (Nat.isDigit_of_mem_toDigits (by decide) (by decide) h)

private theorem trimmed_toString (n : Nat) : Trimmed (toString n) := by
  refine trimmed_of_forall ?_ fun c hc => isBlank_of_mem_repr hc
  intro hempty
  have hchars := congrArg String.toList hempty
  rw [show toString n = Nat.repr n from rfl, Nat.toList_repr] at hchars
  exact Nat.toDigits_ne_nil hchars

end Text

/-! ## The text of a number -/

namespace Decimal

open Text

private theorem isBlank_positional {digits tail : List Char} {point : Int}
    (hdigits : ∀ c ∈ digits, isBlank c = false) (htail : ∀ c ∈ tail, isBlank c = false) :
    ∀ c ∈ positional digits point tail, isBlank c = false := by
  have hzeros {n : Nat} {c : Char} (h : c ∈ List.replicate n '0') : isBlank c = false := by
    rw [List.eq_of_mem_replicate h]
    decide
  intro c hc
  unfold positional at hc
  split at hc
  · rw [List.mem_append, List.mem_cons, List.mem_cons] at hc
    rcases hc with (rfl | rfl | hc) | hc
    · decide
    · decide
    · exact hzeros hc
    · exact hdigits c hc
  · split at hc
    · rw [List.mem_append, List.mem_append] at hc
      rcases hc with (hc | hc) | hc
      · exact hdigits c hc
      · exact hzeros hc
      · exact htail c hc
    · rw [List.mem_append, List.mem_cons] at hc
      rcases hc with hc | rfl | hc
      · exact hdigits c (List.mem_of_mem_take hc)
      · decide
      · exact hdigits c (List.mem_of_mem_drop hc)

private theorem isBlank_scientific {digits : List Char} {point : Int}
    (hdigits : ∀ c ∈ digits, isBlank c = false) :
    ∀ c ∈ scientific digits point, isBlank c = false := by
  intro c hc
  unfold scientific at hc
  rcases List.mem_append.mp hc with hmantissa | hexponent
  · split at hmantissa
    · rcases List.mem_cons.mp hmantissa with rfl | hrest
      · exact hdigits c List.mem_cons_self
      · rcases List.mem_cons.mp hrest with rfl | hrest
        · decide
        · exact hdigits c (List.mem_cons_of_mem _ hrest)
    · exact hdigits c hmantissa
  · rcases List.mem_cons.mp hexponent with rfl | hexponent
    · decide
    · rcases List.mem_cons.mp hexponent with rfl | hexponent
      · split <;> decide
      · exact isBlank_of_mem_repr hexponent

private theorem positional_ne_nil {digits : List Char} (hdigits : digits ≠ []) (point : Int)
    (tail : List Char) : positional digits point tail ≠ [] := by
  unfold positional
  split
  · simp
  · split <;> simp [hdigits]

private theorem scientific_ne_nil (digits : List Char) (point : Int) :
    scientific digits point ≠ [] := by
  unfold scientific
  simp

private theorem trimmed_signed {text : List Char} (hne : text ≠ [])
    (h : ∀ c ∈ text, isBlank c = false)
    (negative : Bool) : Trimmed (String.ofList (if negative then '-' :: text else text)) := by
  cases negative with
  | false => exact trimmed_of_forall (by simpa using hne) (by simpa using h)
  | true => exact trimmed_of_forall (by simp) (by simpa using ⟨by decide, h⟩)

private theorem trimmed_render? {bits : UInt64} {text : String} (h : render? bits = some text) :
    Trimmed text := by
  unfold render? at h
  cases hb : Binary.ofBits? bits with
  | none => simp [hb] at h
  | some b =>
    rw [hb] at h
    dsimp only [Option.bind_eq_bind, Option.bind_some] at h
    split at h
    · obtain rfl := Option.some.inj h
      exact trimmed_signed (by decide) (by decide) b.negative
    · obtain rfl := Option.some.inj h
      have hdigits : ∀ c ∈ digitChars b.shortest.digits, isBlank c = false :=
        fun c hc => isBlank_of_mem_repr hc
      have hne : digitChars b.shortest.digits ≠ [] := by
        rw [digitChars, Nat.toList_repr]
        exact Nat.toDigits_ne_nil
      refine trimmed_signed ?_ ?_ b.negative
      · split
        · exact positional_ne_nil hne _ _
        · exact scientific_ne_nil _ _
      · split
        · exact isBlank_positional hdigits (by decide)
        · exact isBlank_scientific hdigits

end Decimal

/-! ## The text of a JSON value -/

namespace Json

open Text

private theorem trimmed_renderNumber (n : Number) : Trimmed n.render := by
  cases n with
  | int i =>
    cases i with
    | ofNat n => exact trimmed_toString n
    | negSucc n =>
      have htext : (Number.int (.negSucc n)).render = "-" ++ Nat.repr (n + 1) := rfl
      rw [htext]
      refine trimmed_of_forall (by simp) fun c hc => ?_
      rw [String.toList_append] at hc
      rcases List.mem_append.mp hc with hc | hc
      · obtain rfl : c = '-' := by simpa using hc
        decide
      · exact isBlank_of_mem_repr hc
  | float bits =>
    rw [Number.render]
    cases h : Decimal.render? bits with
    | none => exact ⟨by decide +kernel, by decide⟩
    | some text => exact Decimal.trimmed_render? h

private theorem trimmed_render (v : Value) : Trimmed v.render := by
  cases v with
  | null => exact trimmed_of_forall (by decide) (by decide)
  | bool b => cases b <;> exact trimmed_of_forall (by decide) (by decide)
  | number n => exact trimmed_renderNumber n
  | string s =>
    have hmark : Trimmed "\"" := trimmed_of_forall (by decide) (by decide)
    have htext : quote s = "\"" ++ String.ofList (s.toList.flatMap escapeChar) ++ "\"" := by
      rw [← String.toList_inj, quote]
      simp
    rw [Value.render, htext]
    exact hmark.append hmark _
  | array items =>
    have hopen : Trimmed "[" := trimmed_of_forall (by decide) (by decide)
    exact hopen.append (trimmed_of_forall (by decide) (by decide)) _
  | object members =>
    have hopen : Trimmed "\x7b" := trimmed_of_forall (by decide) (by decide)
    exact hopen.append (trimmed_of_forall (by decide) (by decide)) _

end Json

/-! ## Values of a message -/

namespace Extractor

private theorem trimmed_value? {cs : List Char} {m : Pattern.Match} {v : String}
    (h : value? cs m = some v) : Text.Trimmed v := by
  unfold value? at h
  dsimp only at h
  split at h
  · cases h
  · next hne =>
    obtain rfl := Option.some.inj h
    refine ⟨?_, by simpa using hne⟩
    rw [Text.trim, String.toList_ofList, Text.trimChars, Text.trimChars,
      Text.stripChars_stripChars]

private theorem trimmed_values {e : Extractor} {text v : String} (h : v ∈ e.values text) :
    Text.Trimmed v := by
  obtain ⟨m, -, hm⟩ := List.mem_filterMap.mp h
  exact trimmed_value? hm

theorem mem_firstValues {extractors : List Extractor} {text : String} {p : String × String}
    (h : p ∈ firstValues extractors text) :
    ∃ e ∈ extractors, e.entity = p.1 ∧ p.2 ∈ e.values text := by
  induction extractors using List.reverseRecOn with
  | nil => cases h
  | append_singleton extractors e ih =>
    have hearlier (hp : p ∈ firstValues extractors text) :
        ∃ e' ∈ extractors ++ [e], e'.entity = p.1 ∧ p.2 ∈ e'.values text := by
      obtain ⟨e', he', hvalue⟩ := ih hp
      exact ⟨e', List.mem_append_left _ he', hvalue⟩
    rw [firstValues, List.foldl_concat, ← firstValues] at h
    split at h
    · exact hearlier h
    · split at h
      · next v hv =>
        rcases Entries.mem_of_mem_insert h with rfl | h
        · exact ⟨e, by simp, rfl, List.mem_of_head? hv⟩
        · exact hearlier h
      · exact hearlier h

private theorem mem_allValues {extractors : List Extractor} {entity text v : String}
    (h : v ∈ allValues extractors entity text) :
    ∃ e ∈ extractors, e.entity = entity ∧ v ∈ e.values text := by
  rw [allValues, Text.mem_foldl_distinct] at h
  obtain ⟨e, he, hv⟩ := List.mem_flatMap.mp (h.resolve_left List.not_mem_nil)
  obtain ⟨hmem, hentity⟩ := List.mem_filter.mp he
  exact ⟨e, hmem, eq_of_beq hentity, hv⟩

end Extractor

namespace Intent

open Json

/-- All the values count: none is empty or has blanks around it. -/
def Filled (values : Entries String) : Prop := ∀ p ∈ values, Text.Trimmed p.2

variable {values more : Entries String}

private theorem Filled.insert (h : Filled values) {v : String} (hv : Text.Trimmed v) (k : String) :
    Filled (Entries.insert values k v) := Entries.forall_insert h hv

private theorem filled_firstValues (extractors : List Extractor) (text : String) :
    Filled (Extractor.firstValues extractors text) := by
  intro p hp
  obtain ⟨e, -, -, hv⟩ := Extractor.mem_firstValues hp
  exact Extractor.trimmed_values hv

private theorem Filled.joinRecipients (h : Filled values) (text : String) :
    Filled (joinRecipients text values) := by
  unfold Intent.joinRecipients
  dsimp only
  split
  · next hmany =>
    refine h.insert (Text.trimmed_intercalate ?_ fun v hv => ?_) "recipient"
    · exact List.ne_nil_of_length_pos (by omega)
    · obtain ⟨e, -, -, hvalue⟩ := Extractor.mem_allValues hv
      exact Extractor.trimmed_values hvalue
  · exact h

private theorem Filled.dropFalseProject (h : Filled values) : Filled (dropFalseProject values) := by
  unfold Intent.dropFalseProject
  split
  · split
    · exact fun p hp => h p (List.mem_filter.mp hp).1
    · exact h
  · exact h

private theorem trimmed_unit (unit : IntervalUnit) : Text.Trimmed unit.text := by
  cases unit <;> exact Text.trimmed_of_forall (by decide) (by decide)

private theorem Filled.addCadence (h : Filled values) : Filled (addCadence values) := by
  unfold Intent.addCadence
  split
  · next c hc =>
    exact (h.insert (Text.trimmed_toString c.every) _).insert (trimmed_unit c.unit) _
  · exact h

theorem filled_extract (text : String) : Filled (extract text) :=
  (((filled_firstValues _ text).joinRecipients text).dropFalseProject).addCadence

/-! ## Values of an answer -/

theorem trimmed_paramOf? {v : Value} {s : String} (h : paramOf? v = some s) :
    Text.Trimmed s := by
  unfold paramOf? at h
  split at h
  · cases h
  · split at h
    · cases h
    · next text hblank =>
      obtain rfl := Option.some.inj h
      refine ⟨Text.trim_trim _, fun hempty => hblank ?_⟩
      exact Text.isBlankText_of_trim_eq_empty hempty
  · obtain rfl := Option.some.inj h
    exact trimmed_render _

theorem Filled.fillIn (h : Filled values) (hmore : Filled more) :
    Filled (fillIn values more) := by
  induction more generalizing values with
  | nil => exact h
  | cons p more ih =>
    obtain ⟨k, v⟩ := p
    obtain ⟨hv, hmore⟩ := List.forall_mem_cons.mp hmore
    refine ih ?_ hmore
    dsimp only
    split
    · exact h
    · exact h.insert hv k

end Intent

end Automation
