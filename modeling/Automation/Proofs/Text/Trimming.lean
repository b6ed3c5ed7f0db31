import Automation.Proofs.Text.LowerCase

/-!
# Trimmed texts in lower case

Lower case makes no blanks of other characters, so a trimmed text in lower case is trimmed. A text
that was trimmed and put in lower case is left as it is when that is done again.
-/

namespace Automation.Text

variable {cs : List Char}

/-- The blank characters, as runs without partners. -/
def blankRuns : List Run :=
  [⟨9, 13, 1, 0⟩, ⟨32, 32, 1, 0⟩, ⟨0x85, 0x85, 1, 0⟩, ⟨0xA0, 0xA0, 1, 0⟩, ⟨0x1680, 0x1680, 1, 0⟩,
    ⟨0x2000, 0x200A, 1, 0⟩, ⟨0x2028, 0x2029, 1, 0⟩, ⟨0x202F, 0x202F, 1, 0⟩, ⟨0x205F, 0x205F, 1, 0⟩,
    ⟨0x3000, 0x3000, 1, 0⟩]

private theorem Run.partner?_eq_none_iff {s : Run} (h : s.step = 1) {n : Nat} :
    s.partner? n = none ↔ ¬ (s.first ≤ n ∧ n ≤ s.last) := by
  rw [Run.partner?, h, Nat.mod_one]
  simp

private theorem isBlank_eq_false_iff {c : Char} :
    isBlank c = false ↔ ∀ s ∈ blankRuns, s.partner? c.toNat = none := by
  simp only [blankRuns, List.forall_mem_cons]
  simp only [isBlank, Bool.or_eq_false_iff, Bool.and_eq_false_imp, decide_eq_true_eq,
    decide_eq_false_iff_not, not_le, beq_eq_false_iff_ne, ne_eq, Run.partner?_eq_none_iff, not_and,
    List.not_mem_nil, IsEmpty.forall_iff, implies_true, and_true]
  omega

private theorem lowerRuns_avoid_blanks :
    (lowerRuns.toList.all fun r => blankRuns.all fun s => r.avoids s) = true := by
  decide +kernel

private theorem isBlank_toLower_of_lt : ∀ n < 0x80,
    isBlank (Char.ofNat n).toLower = isBlank (Char.ofNat n) := by
  decide +kernel

private theorem isBlank_of_partner {n m : Nat} (h : lowerRuns.findSome? (·.partner? n) = some m) :
    isBlank (Char.ofNat m) = false := by
  obtain ⟨r, hr, hm⟩ := exists_run h
  have havoid := List.all_eq_true.mp (List.all_eq_true.mp lowerRuns_avoid_blanks r hr)
  rw [isBlank_eq_false_iff, toNat_of_partner h]
  intro s hs
  exact Run.partner?_of_avoids (havoid s hs) hm

private theorem isBlank_of_mem_lowerChar {c d : Char} (hc : isBlank c = false)
    (hd : d ∈ lowerChar c) : isBlank d = false := by
  unfold lowerChar at hd
  split at hd
  · next hascii =>
    obtain rfl := List.mem_singleton.mp hd
    rw [← hc, ← Char.ofNat_toNat c]
    exact isBlank_toLower_of_lt c.toNat hascii
  · split at hd
    · rcases List.mem_cons.mp hd with rfl | hd
      · decide
      · obtain rfl := List.mem_singleton.mp hd
        decide
    · split at hd
      · next m hm =>
        obtain rfl := List.mem_singleton.mp hd
        exact isBlank_of_partner hm
      · obtain rfl := List.mem_singleton.mp hd
        exact hc

private theorem lowerChar_ne_nil (c : Char) : lowerChar c ≠ [] := by
  unfold lowerChar
  split
  · exact List.cons_ne_nil _ _
  · split
    · exact List.cons_ne_nil _ _
    · split <;> exact List.cons_ne_nil _ _

private theorem exists_lowerFrom_cons (before : List Char) (c : Char) (cs : List Char) :
    ∃ low, lowerFrom before (c :: cs) = low ++ lowerFrom (c :: before) cs ∧ low ≠ [] ∧
      (isBlank c = false → ∀ d ∈ low, isBlank d = false) := by
  by_cases hsigma : (c.toNat == 0x3A3) = true
  · have hplain : ∀ b : Bool, isBlank (Char.ofNat (if b then 0x3C2 else 0x3C3)) = false := by
      decide
    refine ⟨_, rfl, ?_, ?_⟩
    · rw [if_pos hsigma]
      exact List.cons_ne_nil _ _
    · intro _ d hd
      rw [if_pos hsigma] at hd
      obtain rfl := List.mem_singleton.mp hd
      exact hplain _
  · refine ⟨_, rfl, ?_, ?_⟩
    · rw [if_neg hsigma]
      exact lowerChar_ne_nil c
    · intro hc d hd
      rw [if_neg hsigma] at hd
      exact isBlank_of_mem_lowerChar hc hd

private theorem isBlank_head_lowerFrom (h : ∀ c, cs.head? = some c → isBlank c = false)
    (before : List Char) {d : Char} (hd : (lowerFrom before cs).head? = some d) :
    isBlank d = false := by
  cases cs with
  | nil => cases hd
  | cons c cs =>
    obtain ⟨low, hlow, hne, hplain⟩ := exists_lowerFrom_cons before c cs
    rw [hlow, List.head?_append_of_ne_nil _ hne] at hd
    exact hplain (h c rfl) d (List.mem_of_head? hd)

private theorem isBlank_getLast_lowerFrom (h : ∀ c, cs.getLast? = some c → isBlank c = false)
    (before : List Char) {d : Char} (hd : (lowerFrom before cs).getLast? = some d) :
    isBlank d = false := by
  induction cs generalizing before with
  | nil => cases hd
  | cons c cs ih =>
    obtain ⟨low, hlow, hne, hplain⟩ := exists_lowerFrom_cons before c cs
    rw [hlow] at hd
    cases cs with
    | nil =>
      rw [lowerFrom, List.append_nil] at hd
      exact hplain (h c rfl) d (List.mem_of_getLast? hd)
    | cons c' cs =>
      obtain ⟨low', hlow', hne', -⟩ := exists_lowerFrom_cons (c :: before) c' cs
      have hrest : lowerFrom (c :: before) (c' :: cs) ≠ [] := by
        rw [hlow']
        exact List.append_ne_nil_of_left_ne_nil hne' _
      rw [List.getLast?_append_of_ne_nil _ hrest] at hd
      refine ih (fun e he => h e ?_) (c :: before) hd
      rw [List.getLast?_cons_cons]
      exact he

private theorem trim_lower {s : String} (h : trim s = s) : trim (lower s) = lower s := by
  obtain ⟨hhead, hlast⟩ := stripChars_eq_self_iff.mp (trimChars_toList h)
  rw [trim, lower, String.toList_ofList, trimChars]
  congr 1
  exact stripChars_eq_self_iff.mpr ⟨fun d hd => isBlank_head_lowerFrom hhead [] hd,
    fun d hd => isBlank_getLast_lowerFrom hlast [] hd⟩

/-- Trimming and lower case leave nothing to be done again. -/
theorem lower_trim_lower_trim (s : String) : lower (trim (lower (trim s))) = lower (trim s) := by
  rw [trim_lower (trim_trim s), lower_lower]

end Automation.Text
