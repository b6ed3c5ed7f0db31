import Automation.Proofs.Text

/-!
# Lower case is settled

A text in lower case has nothing left to be put in lower case, and it makes no difference to put the
ASCII letters in lower case first. So a text whose ASCII letters in lower case spell a text in lower
case is the same as that text, but for the case of letters.
-/

namespace Automation.Text

variable {cs : List Char}

/-! ## Single characters -/

/-- No partner of the characters in `r` is in `s`: they lie before or behind `s` or in its gaps. -/
def Run.avoids (r s : Run) : Bool :=
  (r.target + (r.last - r.first)).blt s.first || s.last.blt r.target ||
    s.step == 2 && (r.step == 2 || r.first == r.last) && (r.target + s.first) % 2 == 1

private theorem Run.partner?_eq_some {r : Run} {n m : Nat} : r.partner? n = some m ↔
    r.first ≤ n ∧ n ≤ r.last ∧ (n - r.first) % r.step = 0 ∧ m = r.target + (n - r.first) := by
  unfold partner?
  split
  · next h =>
    simp only [Bool.and_eq_true, decide_eq_true_eq, beq_iff_eq] at h
    simp [h, eq_comm]
  · next h =>
    simp only [Bool.and_eq_true, decide_eq_true_eq, beq_iff_eq] at h
    simp only [reduceCtorEq, false_iff]
    tauto

theorem Run.partner?_of_avoids {r s : Run} (h : r.avoids s = true) {n m : Nat}
    (hn : r.partner? n = some m) : s.partner? m = none := by
  obtain ⟨hfirst, hlast, hstep, rfl⟩ := Run.partner?_eq_some.mp hn
  simp only [avoids, Bool.or_eq_true, Bool.and_eq_true, Nat.blt_eq, beq_iff_eq] at h
  rw [Option.eq_none_iff_forall_ne_some]
  intro k hk
  obtain ⟨hfirst', hlast', hstep', -⟩ := Run.partner?_eq_some.mp hk
  rcases h with (hbefore | hbehind) | ⟨⟨htwo, hgap⟩, hodd⟩
  · omega
  · omega
  · rw [htwo] at hstep'
    rcases hgap with hr | hone
    · rw [hr] at hstep
      omega
    · omega

private theorem lowerRuns_avoid :
    (lowerRuns.toList.all fun r => lowerRuns.toList.all fun s => r.avoids s) = true := by
  decide +kernel

private theorem lowerRuns_target : (lowerRuns.toList.all fun r =>
    ((r.target + (r.last - r.first)).blt 0xD800 ||
      Nat.blt 0xDFFF r.target && (r.target + (r.last - r.first)).blt 0x110000) &&
    (Nat.blt 0x7F r.target || r.first == r.last && r.target == 0x6B) &&
    r.avoids ⟨0x130, 0x130, 1, 0⟩) = true := by
  decide +kernel

theorem exists_run {n m : Nat} (h : lowerRuns.findSome? (·.partner? n) = some m) :
    ∃ r ∈ lowerRuns.toList, r.partner? n = some m := by
  obtain ⟨r, hr, hm⟩ := Array.exists_of_findSome?_eq_some h
  exact ⟨r, Array.mem_toList_iff.mpr hr, hm⟩

private theorem toNat_ofNat {n : Nat} (h : n.isValidChar) : (Char.ofNat n).toNat = n := by
  rw [Char.ofNat, dif_pos h]
  rfl

theorem toNat_of_partner {n m : Nat} (h : lowerRuns.findSome? (·.partner? n) = some m) :
    (Char.ofNat m).toNat = m := by
  obtain ⟨r, hr, hm⟩ := exists_run h
  have htarget := List.all_eq_true.mp lowerRuns_target r hr
  simp only [Bool.and_eq_true, Bool.or_eq_true, Nat.blt_eq] at htarget
  obtain ⟨⟨hvalid, -⟩, -⟩ := htarget
  obtain ⟨hfirst, hlast, -, heq⟩ := Run.partner?_eq_some.mp hm
  apply toNat_ofNat
  unfold Nat.isValidChar
  omega

private theorem lowerChar_of_partner {n m : Nat} (h : lowerRuns.findSome? (·.partner? n) = some m) :
    lowerChar (Char.ofNat m) = [Char.ofNat m] := by
  obtain ⟨r, hr, hm⟩ := exists_run h
  have havoid := List.all_eq_true.mp (List.all_eq_true.mp lowerRuns_avoid r hr)
  have htarget := List.all_eq_true.mp lowerRuns_target r hr
  simp only [Bool.and_eq_true, Bool.or_eq_true, Nat.blt_eq, beq_iff_eq] at htarget
  obtain ⟨⟨-, hsmall⟩, hdotted⟩ := htarget
  obtain ⟨hfirst, hlast, -, heq⟩ := Run.partner?_eq_some.mp hm
  have hplain : m ≠ 0x130 := by
    rintro rfl
    cases Run.partner?_of_avoids hdotted hm
  have hnone : lowerRuns.findSome? (·.partner? m) = none := by
    rw [Array.findSome?_eq_none_iff]
    intro s hs
    exact Run.partner?_of_avoids (havoid s (Array.mem_toList_iff.mpr hs)) hm
  rw [lowerChar, toNat_of_partner h]
  split
  · have hk : m = 0x6B := by omega
    rw [hk]
    rfl
  · rw [hnone, if_neg (by simpa using hplain)]

private theorem toLower_of_lt : ∀ n < 0x80,
    let c := Char.ofNat n
    c.toLower.toNat < 0x80 ∧ c.toLower.toLower = c.toLower ∧ isCased c.toLower = isCased c ∧
      isCaseIgnorable c.toLower = isCaseIgnorable c := by
  decide +kernel

private theorem toLower_of_ascii {c : Char} (h : c.toNat < 0x80) :
    c.toLower.toNat < 0x80 ∧ c.toLower.toLower = c.toLower ∧ isCased c.toLower = isCased c ∧
      isCaseIgnorable c.toLower = isCaseIgnorable c := by
  have hlower := toLower_of_lt c.toNat h
  rwa [Char.ofNat_toNat] at hlower

theorem toLower_of_not_ascii {c : Char} (h : ¬ c.toNat < 0x80) : c.toLower = c := by
  rw [toLower_eq_self_iff]
  unfold Char.isUpper
  have hval : c.toNat = c.val.toNat := rfl
  have hlast : 'Z'.val.toNat = 90 := rfl
  simp only [decide_eq_false_iff_not, UInt32.le_iff_toNat_le]
  omega

private theorem lowerChar_of_mem {c d : Char} (h : d ∈ lowerChar c) : lowerChar d = [d] := by
  unfold lowerChar at h
  split at h
  · next hascii =>
    obtain ⟨hlower, hagain, -⟩ := toLower_of_ascii hascii
    obtain rfl := List.mem_singleton.mp h
    rw [lowerChar_of_ascii hlower, hagain]
  · split at h
    · rcases List.mem_cons.mp h with rfl | h
      · decide +kernel
      · obtain rfl := List.mem_singleton.mp h
        decide +kernel
    · next hascii hdotted =>
      split at h
      · next m hm =>
        obtain rfl := List.mem_singleton.mp h
        exact lowerChar_of_partner hm
      · next hnone =>
        obtain rfl := List.mem_singleton.mp h
        rw [lowerChar, if_neg hascii, if_neg hdotted, hnone]

private theorem lowerChar_toLower (c : Char) : lowerChar c.toLower = lowerChar c := by
  by_cases h : c.toNat < 0x80
  · obtain ⟨hlower, hagain, -⟩ := toLower_of_ascii h
    rw [lowerChar_of_ascii h, lowerChar_of_ascii hlower, hagain]
  · rw [toLower_of_not_ascii h]

/-! ## Texts -/

private theorem lowerChar_of_mem_lowerFrom {before : List Char} {d : Char}
    (h : d ∈ lowerFrom before cs) : lowerChar d = [d] := by
  induction cs generalizing before with
  | nil => cases h
  | cons c cs ih =>
    rw [lowerFrom, List.mem_append] at h
    rcases h with h | h
    · split at h
      · -- a capital sigma
        obtain rfl := List.mem_singleton.mp h
        split <;> decide +kernel
      · exact lowerChar_of_mem h
    · exact ih h

private theorem lowerFrom_of_forall (h : ∀ c ∈ cs, lowerChar c = [c]) (before : List Char) :
    lowerFrom before cs = cs := by
  induction cs generalizing before with
  | nil => rfl
  | cons c cs ih =>
    have hc : lowerChar c = [c] := h c (by simp)
    have hsigma : (c.toNat == 0x3A3) = false := by
      rw [beq_eq_false_iff_ne]
      intro hnat
      have hchar : c = Char.ofNat 0x3A3 := by rw [← hnat, Char.ofNat_toNat]
      rw [hchar] at hc
      exact absurd hc (by decide +kernel)
    rw [lowerFrom, ih fun d hd => h d (by simp [hd]), hsigma, hc]
    rfl

theorem lower_lower (s : String) : lower (lower s) = lower s := by
  rw [lower, lower, String.toList_ofList]
  exact congrArg String.ofList (lowerFrom_of_forall (fun _ h => lowerChar_of_mem_lowerFrom h) _)

private theorem isCased_toLower (c : Char) : isCased c.toLower = isCased c := by
  by_cases h : c.toNat < 0x80
  · exact (toLower_of_ascii h).2.2.1
  · rw [toLower_of_not_ascii h]

private theorem isCaseIgnorable_toLower (c : Char) :
    isCaseIgnorable c.toLower = isCaseIgnorable c := by
  by_cases h : c.toNat < 0x80
  · exact (toLower_of_ascii h).2.2.2
  · rw [toLower_of_not_ascii h]

private theorem meetsCased_map_toLower (cs : List Char) :
    meetsCased (cs.map Char.toLower) = meetsCased cs := by
  have hignorable : isCaseIgnorable ∘ Char.toLower = isCaseIgnorable :=
    funext isCaseIgnorable_toLower
  unfold meetsCased
  rw [List.dropWhile_map, hignorable]
  cases cs.dropWhile isCaseIgnorable with
  | nil => rfl
  | cons c cs => exact isCased_toLower c

private theorem lowerFrom_map_toLower (before cs : List Char) :
    lowerFrom (before.map Char.toLower) (cs.map Char.toLower) = lowerFrom before cs := by
  induction cs generalizing before with
  | nil => rfl
  | cons c cs ih =>
    have hsigma : (c.toLower.toNat == 0x3A3) = (c.toNat == 0x3A3) := by
      by_cases h : c.toNat < 0x80
      · have hlower := (toLower_of_ascii h).1
        rw [beq_eq_false_iff_ne.mpr (by omega), beq_eq_false_iff_ne.mpr (by omega)]
      · rw [toLower_of_not_ascii h]
    rw [List.map_cons, lowerFrom, lowerFrom, hsigma, lowerChar_toLower, meetsCased_map_toLower,
      meetsCased_map_toLower, ← List.map_cons, ih]

private theorem lower_asciiLower (s : String) : lower (asciiLower s) = lower s := by
  rw [lower, lower, asciiLower, String.toList_ofList]
  exact congrArg String.ofList (lowerFrom_map_toLower [] s.toList)

/-- A text whose ASCII letters in lower case spell a text in lower case becomes that text. -/
theorem lower_eq_of_asciiLower {s t : String} (h : asciiLower s = lower t) : lower s = lower t := by
  rw [← lower_asciiLower, h, lower_lower]

end Automation.Text
