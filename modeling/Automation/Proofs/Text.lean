import Automation.Text.Case
import Mathlib.Data.List.DropRight
import Mathlib.Data.List.TakeWhile

/-!
# Trimming, cutting, splitting and lower case

What stays when a run of characters is taken off the ends of a text, where a text is cut, how it
falls into parts, what lower case does to ASCII characters, what is left of a list of texts without
repetition, and how a number is read from its digits.
-/

namespace Automation.Text

variable {p : Char → Bool} {cs : List Char}

/-- What holds of all characters of a list is decided by going through the list. -/
instance (priority := 2000) decidableForallMem {q : Char → Prop} [DecidablePred q]
    (cs : List Char) : Decidable (∀ c ∈ cs, q c) :=
  List.decidableBAll q cs

/-! ## Trimming -/

private theorem mem_dropWhile {c : Char} (hc : c ∈ cs) (hp : p c = false) : c ∈ cs.dropWhile p := by
  rw [← List.takeWhile_append_dropWhile (p := p) (l := cs)] at hc
  rcases List.mem_append.mp hc with hc | hc
  · rw [List.mem_takeWhile_imp hc] at hp
    cases hp
  · exact hc

theorem mem_dropTrailing {c : Char} (hc : c ∈ cs) (hp : p c = false) : c ∈ dropTrailing p cs := by
  rw [dropTrailing, List.mem_reverse]
  exact mem_dropWhile (List.mem_reverse.mpr hc) hp

theorem mem_stripChars {c : Char} (hc : c ∈ cs) (hp : p c = false) : c ∈ stripChars p cs :=
  mem_dropTrailing (mem_dropWhile hc hp) hp

private theorem dropTrailing_eq (p : Char → Bool) (cs : List Char) :
    dropTrailing p cs = cs.rdropWhile p := rfl

theorem stripChars_eq_self_iff : stripChars p cs = cs ↔
    (∀ c, cs.head? = some c → p c = false) ∧ ∀ c, cs.getLast? = some c → p c = false := by
  rw [stripChars, dropTrailing_eq]
  constructor
  · intro h
    have hshort := (List.rdropWhile_prefix p (l := cs.dropWhile p)).length_le
    have hdrop : cs.dropWhile p = cs := by
      apply (List.dropWhile_suffix p).eq_of_length_le
      rw [h] at hshort
      exact hshort
    rw [hdrop] at h
    constructor
    · intro c hc
      have hhead := List.head?_dropWhile_not p cs
      rw [hdrop, hc] at hhead
      exact hhead
    · intro c hc
      obtain ⟨ys, rfl⟩ := List.getLast?_eq_some_iff.mp hc
      have hlast := List.rdropWhile_eq_self_iff.mp h (by simp)
      simpa using hlast
  · rintro ⟨hhead, hlast⟩
    have hdrop : cs.dropWhile p = cs := by
      rw [List.dropWhile_eq_self_iff]
      intro hl
      rw [hhead cs[0] (List.head?_eq_getElem? ▸ List.getElem?_eq_getElem hl)]
      simp
    rw [hdrop, List.rdropWhile_eq_self_iff]
    intro hne
    rw [hlast _ (List.getLast?_eq_some_getLast hne)]
    simp

theorem stripChars_of_forall (h : ∀ c ∈ cs, p c = false) : stripChars p cs = cs := by
  rw [stripChars_eq_self_iff]
  exact ⟨fun c hc => h c (List.mem_of_head? hc), fun c hc => h c (List.mem_of_getLast? hc)⟩

theorem stripChars_stripChars (p : Char → Bool) (cs : List Char) :
    stripChars p (stripChars p cs) = stripChars p cs := by
  rw [stripChars_eq_self_iff]
  constructor
  · intro c hc
    obtain ⟨rest, hrest⟩ := List.rdropWhile_prefix p (l := cs.dropWhile p)
    have hhead := List.head?_dropWhile_not p cs
    rw [← hrest, List.head?_append, ← dropTrailing_eq, ← stripChars, hc] at hhead
    exact hhead
  · intro c hc
    have hne : (cs.dropWhile p).rdropWhile p ≠ [] := by
      intro hnil
      rw [stripChars, dropTrailing_eq, hnil] at hc
      cases hc
    have hlast := List.rdropWhile_last_not p (cs.dropWhile p) hne
    rw [stripChars, dropTrailing_eq, List.getLast?_eq_some_getLast hne, Option.some.injEq] at hc
    rw [hc] at hlast
    simpa using hlast

theorem stripChars_append_left {lead : List Char} (h : ∀ c ∈ lead, p c = true) (cs : List Char) :
    stripChars p (lead ++ cs) = stripChars p cs := by
  rw [stripChars, stripChars, List.dropWhile_append_of_pos h]

theorem stripChars_append_right {trail : List Char} (h : ∀ c ∈ trail, p c = true)
    (cs : List Char) : stripChars p (cs ++ trail) = stripChars p cs := by
  have hdrop : trail.dropWhile p = [] := List.dropWhile_eq_nil_iff.mpr h
  rw [stripChars, stripChars, List.dropWhile_append]
  split
  · next hempty =>
    rw [hdrop, List.isEmpty_iff.mp hempty]
  · rw [dropTrailing, dropTrailing, List.reverse_append,
      List.dropWhile_append_of_pos fun c hc => h c (List.mem_reverse.mp hc)]

theorem trim_trim (s : String) : trim (trim s) = trim s := by
  rw [trim, trim, String.toList_ofList, trimChars, trimChars, stripChars_stripChars]

theorem trimChars_toList {s : String} (h : trim s = s) : trimChars s.toList = s.toList := by
  rw [← congrArg String.toList h, trim, String.toList_ofList]
  exact stripChars_stripChars isBlank s.toList

/-! ## Cutting -/

theorem exists_mem_of_cutWhere {l r : List Char} (h : cutWhere p cs = some (l, r)) :
    ∃ c ∈ cs, p c = true := by
  induction cs generalizing l r with
  | nil => cases h
  | cons c cs ih =>
    rw [cutWhere] at h
    split at h
    · next hc => exact ⟨c, by simp, hc⟩
    · obtain ⟨⟨l', r'⟩, hcut, -⟩ := Option.map_eq_some_iff.mp h
      obtain ⟨d, hd, hpd⟩ := ih hcut
      exact ⟨d, List.mem_cons_of_mem c hd, hpd⟩

theorem cutWhere_append_cons {l : List Char} (h : ∀ c ∈ l, p c = false) {c : Char}
    (hc : p c = true) (r : List Char) : cutWhere p (l ++ c :: r) = some (l, r) := by
  induction l with
  | nil => simp [cutWhere, hc]
  | cons d l ih =>
    have hd : p d = false := h d (by simp)
    rw [List.cons_append, cutWhere, ih fun c hc => h c (by simp [hc])]
    simp [hd]

/-! ## Splitting -/

private theorem splitWhere_eq (p : Char → Bool) (cs : List Char) :
    splitWhere p cs = cs.splitOnP p := by
  induction cs with
  | nil => simp [splitWhere]
  | cons c cs ih =>
    rw [splitWhere, ih, List.splitOnP_cons_eq_if_modifyHead]
    cases hparts : cs.splitOnP p with
    | nil => exact absurd hparts (List.splitOnP_ne_nil p cs)
    | cons part parts => rfl

theorem splitWhere_ne_nil (p : Char → Bool) (cs : List Char) : splitWhere p cs ≠ [] := by
  rw [splitWhere_eq]
  exact List.splitOnP_ne_nil p cs

theorem splitWhere_of_forall (h : ∀ c ∈ cs, p c = false) : splitWhere p cs = [cs] := by
  rw [splitWhere_eq, List.splitOnP_eq_singleton h]

theorem splitWhere_append_cons {part : List Char} (h : ∀ c ∈ part, p c = false) {c : Char}
    (hc : p c = true) (rest : List Char) :
    splitWhere p (part ++ c :: rest) = part :: splitWhere p rest := by
  rw [splitWhere_eq, splitWhere_eq, List.splitOnP_append_cons part rest hc,
    List.splitOnP_eq_singleton h, List.singleton_append]

theorem splitWhere_append {part : List Char} (h : ∀ c ∈ part, p c = false) {rest first : List Char}
    {others : List (List Char)} (hrest : splitWhere p rest = first :: others) :
    splitWhere p (part ++ rest) = (part ++ first) :: others := by
  induction part with
  | nil => exact hrest
  | cons c part ih =>
    have hc : p c = false := h c (by simp)
    rw [List.cons_append, splitWhere, ih fun d hd => h d (by simp [hd])]
    simp [hc]

/-- The parts, with the marks between them, make up the text. -/
theorem exists_splitWhere (mark : Char) (cs : List Char) :
    ∃ first others, splitWhere (· == mark) cs = first :: others ∧
      cs = first ++ others.flatMap (mark :: ·) ∧
      ∀ part ∈ first :: others, ∀ c ∈ part, c ∈ cs ∧ c ≠ mark := by
  induction cs with
  | nil => exact ⟨[], [], rfl, rfl, by simp⟩
  | cons c cs ih =>
    obtain ⟨first, others, hsplit, hcs, hparts⟩ := ih
    have hlater : ∀ part ∈ first :: others, ∀ d ∈ part, d ∈ c :: cs ∧ d ≠ mark := by
      intro part hpart d hd
      have hmem := hparts part hpart d hd
      exact ⟨List.mem_cons_of_mem c hmem.1, hmem.2⟩
    rw [splitWhere, hsplit]
    by_cases hc : c = mark
    · subst hc
      refine ⟨[], first :: others, by simp, by rw [hcs]; simp, ?_⟩
      exact List.forall_mem_cons.mpr ⟨by simp, hlater⟩
    · obtain ⟨hfirst, hothers⟩ := List.forall_mem_cons.mp hlater
      refine ⟨c :: first, others, by simp [hc], by rw [hcs]; rfl, ?_⟩
      exact List.forall_mem_cons.mpr ⟨List.forall_mem_cons.mpr ⟨by simp [hc], hfirst⟩, hothers⟩

/-! ## Lower case -/

theorem lowerChar_of_ascii {c : Char} (h : c.toNat < 0x80) : lowerChar c = [c.toLower] := by
  rw [lowerChar, if_pos h]

private theorem lowerFrom_of_ascii (h : ∀ c ∈ cs, c.toNat < 0x80) (before : List Char) :
    lowerFrom before cs = cs.map Char.toLower := by
  induction cs generalizing before with
  | nil => rfl
  | cons c cs ih =>
    have hc : c.toNat < 0x80 := h c (by simp)
    have hsigma : (c.toNat == 0x3A3) = false := by
      rw [beq_eq_false_iff_ne]
      omega
    rw [lowerFrom, ih (fun d hd => h d (by simp [hd])), hsigma, lowerChar_of_ascii hc]
    rfl

theorem lower_of_ascii {s : String} (h : ∀ c ∈ s.toList, c.toNat < 0x80) :
    lower s = asciiLower s := by
  rw [lower, asciiLower, lowerFrom_of_ascii h]

theorem toLower_mem_lowerFrom {c : Char} (hc : c ∈ cs) (h : c.toNat < 0x80)
    (before : List Char) : c.toLower ∈ lowerFrom before cs := by
  induction cs generalizing before with
  | nil => cases hc
  | cons d cs ih =>
    rw [lowerFrom, List.mem_append]
    rcases List.mem_cons.mp hc with rfl | hc
    · left
      have hsigma : (c.toNat == 0x3A3) = false := by
        rw [beq_eq_false_iff_ne]
        omega
      rw [hsigma, lowerChar_of_ascii h]
      exact List.mem_singleton_self _
    · right
      exact ih hc _

theorem toLower_eq_self_iff {c : Char} : c.toLower = c ↔ c.isUpper = false := by
  unfold Char.toLower Char.isUpper
  split
  · next h =>
    have hupper : (65 ≤ c.val && c.val ≤ 90) = true := by simpa using h
    simp [Char.ext_iff, hupper]
  · next h =>
    have hupper : (65 ≤ c.val && c.val ≤ 90) = false := by simpa using h
    simp [hupper]

theorem asciiLower_eq_self_iff {s : String} :
    asciiLower s = s ↔ ∀ c ∈ s.toList, c.isUpper = false := by
  have hmap : asciiLower s = s ↔ s.toList.map Char.toLower = s.toList.map id := by
    rw [List.map_id, ← String.toList_inj, asciiLower, String.toList_ofList]
  rw [hmap, List.map_inj_left]
  simp only [id_eq, toLower_eq_self_iff]

/-! ## Texts without repetition -/

theorem mem_foldl_distinct {names seen : List String} {n : String} :
    n ∈ names.foldl (fun seen n => if seen.contains n then seen else seen ++ [n]) seen ↔
      n ∈ seen ∨ n ∈ names := by
  induction names generalizing seen with
  | nil => simp
  | cons m names ih =>
    rw [List.foldl_cons, ih, List.mem_cons]
    by_cases hm : seen.contains m = true
    · rw [if_pos hm]
      have hmem : m ∈ seen := by simpa using hm
      constructor
      · tauto
      · rintro (h | rfl | h)
        · exact .inl h
        · exact .inl hmem
        · exact .inr h
    · rw [if_neg hm]
      simp only [List.mem_append, List.mem_singleton]
      tauto

theorem nodup_foldl_distinct {names seen : List String} (h : seen.Nodup) :
    (names.foldl (fun seen n => if seen.contains n then seen else seen ++ [n]) seen).Nodup := by
  induction names generalizing seen with
  | nil => exact h
  | cons m names ih =>
    rw [List.foldl_cons]
    apply ih
    split
    · exact h
    · next hm =>
      have hmem : m ∉ seen := by simpa using hm
      rw [List.nodup_append]
      refine ⟨h, by simp, fun a ha b hb => ?_⟩
      rw [List.mem_singleton.mp hb]
      exact ne_of_mem_of_not_mem ha hmem

/-! ## Numbers in digits -/

private theorem natOfDigits_eq (ds : List Char) : natOfDigits ds = Nat.ofDigitChars 10 ds 0 := by
  rw [natOfDigits, Nat.ofDigitChars]
  congr
  funext n c
  rw [Nat.mul_comm]
  rfl

theorem nat?_toString {n bound : Nat} (h : n < bound) : nat? bound (toString n) = some n := by
  have hchars : (toString n).toList = Nat.toDigits 10 n := Nat.toList_repr
  have hdigit : ∀ c ∈ Nat.toDigits 10 n, c.isDigit = true :=
    fun c => Nat.isDigit_of_mem_toDigits (by decide) (by decide)
  have hvalue : natOfDigits (Nat.toDigits 10 n) = n := by
    rw [natOfDigits_eq]
    exact Nat.ofDigitChars_ten_toDigits
  unfold nat?
  rw [hchars]
  split
  · next rest hplus =>
    cases hdigit '+' (hplus ▸ List.mem_cons_self)
  · rw [if_neg (by simpa [Nat.toDigits_ne_nil] using hdigit), hvalue, if_pos h]

theorem lt_of_nat? {n bound : Nat} {s : String} (h : nat? bound s = some n) : n < bound := by
  obtain ⟨ds, hds⟩ : ∃ ds : List Char, (if ds.isEmpty || !ds.all Char.isDigit then none
      else if natOfDigits ds < bound then some (natOfDigits ds) else none) = some n := ⟨_, h⟩
  split at hds
  · cases hds
  · split at hds
    · next hlt =>
      obtain rfl := Option.some.inj hds
      exact hlt
    · cases hds

end Automation.Text
