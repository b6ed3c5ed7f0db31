import Automation.Id

/-!
# What identifiers read as

However an identifier is written, reading it gives its usual form, and that form is read as itself.
-/

namespace Automation.Id

private theorem toNat_toLower (c : Char) :
    c.toLower.toNat = if 65 ≤ c.toNat ∧ c.toNat ≤ 90 then c.toNat + 32 else c.toNat := by
  have hval : c.val.toNat = c.toNat := rfl
  unfold Char.toLower
  split
  · next h =>
    have hlow : 65 ≤ c.toNat := h.1
    have hhigh : c.toNat ≤ 90 := h.2
    rw [if_pos ⟨hlow, hhigh⟩]
    change (c.val + 32).toNat = c.toNat + 32
    rw [UInt32.toNat_add, hval]
    change (c.toNat + 32) % 4294967296 = c.toNat + 32
    omega
  · next h =>
    have hnot : ¬ (65 ≤ c.toNat ∧ c.toNat ≤ 90) := h
    rw [if_neg hnot]

private theorem isHex_iff {c : Char} : isHex c = true ↔
    (48 ≤ c.toNat ∧ c.toNat ≤ 57) ∨ (97 ≤ c.toNat ∧ c.toNat ≤ 102) ∨
      (65 ≤ c.toNat ∧ c.toNat ≤ 70) := by
  have hle {a b : Char} : a ≤ b ↔ a.toNat ≤ b.toNat := Iff.rfl
  have hdigit : c.isDigit = true ↔ 48 ≤ c.toNat ∧ c.toNat ≤ 57 := by
    rw [Char.isDigit, Bool.and_eq_true, decide_eq_true_iff, decide_eq_true_iff]
    exact Iff.rfl
  simp only [isHex, Bool.or_eq_true, Bool.and_eq_true, decide_eq_true_iff, hdigit, hle]
  change ((_ ∨ 97 ≤ c.toNat ∧ c.toNat ≤ 102) ∨ 65 ≤ c.toNat ∧ c.toNat ≤ 70) ↔ _
  omega

/-- A digit of an identifier in lower case. -/
def IsDigit (c : Char) : Prop := isHex c = true ∧ c.toLower = c

private theorem isDigit_toLower {c : Char} (h : isHex c = true) : IsDigit c.toLower := by
  rw [isHex_iff] at h
  have hlower := toNat_toLower c
  have hagain := toNat_toLower c.toLower
  refine ⟨isHex_iff.mpr ?_, Char.toNat_inj.mp ?_⟩
  · split at hlower <;> omega
  · split at hlower <;> split at hagain <;> omega

private theorem IsDigit.ne_hyphen {c : Char} (h : IsDigit c) : c ≠ '-' := by
  rintro rfl
  cases h.1

private theorem toList_grouped (digits : List Char) : (grouped digits).toList =
    digits.take 8 ++ '-' :: ((digits.drop 8).take 4 ++ '-' :: ((digits.drop 12).take 4 ++
      '-' :: ((digits.drop 16).take 4 ++ '-' :: (digits.drop 20).take 12))) := by
  simp [grouped]

private theorem filter_groups {a b c d e : List Char}
    (h : ∀ x ∈ a ++ b ++ c ++ d ++ e, IsDigit x) :
    (a ++ '-' :: (b ++ '-' :: (c ++ '-' :: (d ++ '-' :: e)))).filter (· != '-') =
      a ++ b ++ c ++ d ++ e := by
  have hkeep : (a ++ b ++ c ++ d ++ e).filter (· != '-') = a ++ b ++ c ++ d ++ e :=
    List.filter_eq_self.mpr fun x hx => by simpa using (h x hx).ne_hyphen
  simp only [List.filter_append] at hkeep
  simpa [List.filter_cons] using hkeep

private theorem groups_eq {digits : List Char} (h : digits.length = 32) :
    digits.take 8 ++ (digits.drop 8).take 4 ++ (digits.drop 12).take 4 ++ (digits.drop 16).take 4 ++
      (digits.drop 20).take 12 = digits := by
  have hlast : (digits.drop 20).take 12 = digits.drop 20 :=
    List.take_of_length_le (by simp [h])
  have hnext (n : Nat) : (digits.drop n).take 4 ++ digits.drop (n + 4) = digits.drop n := by
    rw [← List.drop_drop, List.take_append_drop]
  rw [hlast, List.append_assoc, hnext 16, List.append_assoc, hnext 12, List.append_assoc, hnext 8,
    List.take_append_drop]

private theorem hyphenated?_grouped {digits : List Char} (hlength : digits.length = 32)
    (hdigits : ∀ c ∈ digits, IsDigit c) : hyphenated? (grouped digits).toList = simple? digits := by
  have hmarks : [8, 13, 18, 23].all (fun i => (grouped digits).toList[i]? == some '-') = true := by
    simp [toList_grouped, List.getElem?_append, hlength]
  have hsize : (grouped digits).toList.length = 36 := by
    simp [toList_grouped, hlength]
  have hfilter : (grouped digits).toList.filter (· != '-') = digits := by
    rw [toList_grouped, filter_groups, groups_eq hlength]
    rw [groups_eq hlength]
    exact hdigits
  rw [hyphenated?, hmarks, hsize, hfilter]
  rfl

private theorem simple?_digits {digits : List Char} (hlength : digits.length = 32)
    (hdigits : ∀ c ∈ digits, IsDigit c) : simple? digits = some ⟨grouped digits⟩ := by
  have hall : digits.all isHex = true := List.all_eq_true.mpr fun c hc => (hdigits c hc).1
  have hmap : digits.map Char.toLower = digits := by
    rw [List.map_congr_left fun c hc => (hdigits c hc).2, List.map_id']
  rw [simple?, hall, hmap, hlength]
  rfl

private theorem ofText?_grouped {digits : List Char} (hlength : digits.length = 32)
    (hdigits : ∀ c ∈ digits, IsDigit c) : ofText? (grouped digits) = some ⟨grouped digits⟩ := by
  obtain ⟨c, rest, hcs, hc⟩ : ∃ c rest, (grouped digits).toList = c :: rest ∧ IsDigit c := by
    cases digits with
    | nil => cases hlength
    | cons c rest => exact ⟨c, _, toList_grouped _, hdigits c List.mem_cons_self⟩
  have hlong : simple? (grouped digits).toList = none := by
    simp [simple?, toList_grouped, hlength]
  have hplain : (grouped digits).startsWith "urn:uuid:" = false := by
    rw [String.startsWith_string_eq_false_iff, hcs]
    intro hprefix
    obtain ⟨tail, htail⟩ := hprefix
    cases htail
    cases hc.1
  -- no other way of writing applies, so the text is read by its hyphens
  have hread := (hyphenated?_grouped hlength hdigits).trans (simple?_digits hlength hdigits)
  rw [hcs] at hlong hread
  unfold ofText?
  rw [hcs, hplain]
  dsimp only
  split
  · next heq =>
    cases heq
    cases hc.1
  · simp only [hlong, hread]
    rfl

private theorem simple?_form {cs : List Char} {id : Id} (h : simple? cs = some id) :
    ∃ digits : List Char, digits.length = 32 ∧ (∀ c ∈ digits, IsDigit c) ∧
      id = ⟨grouped digits⟩ := by
  unfold simple? at h
  split at h
  · next hcs =>
    rw [Bool.and_eq_true, beq_iff_eq, List.all_eq_true] at hcs
    cases h
    refine ⟨_, (List.length_map _).trans hcs.1, ?_, rfl⟩
    intro c hc
    obtain ⟨d, hd, rfl⟩ := List.mem_map.mp hc
    exact isDigit_toLower (hcs.2 d hd)
  · cases h

/-- What is read is written in the usual form, and so is read again as itself. -/
theorem ofText?_text {text : String} {id : Id} (h : ofText? text = some id) :
    ofText? id.text = some id := by
  -- every way of writing comes down to a row of digits
  have hform : ∃ cs, simple? cs = some id := by
    have hhyphens {cs : List Char} (h : hyphenated? cs = some id) : ∃ cs, simple? cs = some id := by
      unfold hyphenated? at h
      split at h
      · exact ⟨_, h⟩
      · cases h
    unfold ofText? at h
    dsimp only at h
    split at h
    · split at h
      · exact hhyphens h
      · cases h
    · split at h
      · exact hhyphens h
      · cases hsimple : simple? text.toList with
        | none =>
          rw [hsimple] at h
          exact hhyphens h
        | some other =>
          rw [hsimple] at h
          exact ⟨_, hsimple.trans h⟩
  obtain ⟨cs, hcs⟩ := hform
  obtain ⟨digits, hlength, hdigits, rfl⟩ := simple?_form hcs
  exact ofText?_grouped hlength hdigits

end Automation.Id
