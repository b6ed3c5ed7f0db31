import Automation.Json.Decode
import Automation.Proofs.Json.Text
import Mathlib.Algebra.Group.Int.Defs

/-!
# Whole numbers are read as they are written

The digits of a number below `2^64` are read as the number, with a minus sign in front of one of at
most `2^63` as its opposite. Of these a number of 32 bits is what is decoded as one.
-/

namespace Automation.Json

/-! ## Words -/

private theorem begin?_of_isWordPart {c : Char} (h : isWordPart c = true) :
    begin? c = some ([], .word [c]) := by
  unfold begin?
  split <;> first | cases h | exact if_pos h

private theorem tokensOnto?_isWordPart {cs : List Char} (h : ∀ c ∈ cs, isWordPart c = true)
    (read : List Char) : tokensOnto? (.word read) [] cs =
      (wordToken? (cs.reverse ++ read)).map ([·]) := by
  induction cs generalizing read with
  | nil =>
    rw [tokensOnto?, Mode.finish?]
    cases h : wordToken? read <;> simp [h]
  | cons c cs ih =>
    have hc : isWordPart c = true := h c List.mem_cons_self
    have hcs : ∀ d ∈ cs, isWordPart d = true := fun d hd => h d (List.mem_cons_of_mem c hd)
    have hstep : (Mode.word read).step? c = some ([], .word (c :: read)) := by
      simp [Mode.step?, hc]
    rw [tokensOnto?, hstep, List.reverse_cons, List.append_assoc]
    exact ih hcs (c :: read)

private theorem tokens?_isWordPart {c : Char} {cs : List Char}
    (h : ∀ d ∈ c :: cs, isWordPart d = true) :
    tokens? (c :: cs) = (wordToken? (c :: cs).reverse).map ([·]) := by
  have hbegin : begin? c = some ([], .word [c]) := begin?_of_isWordPart (h c List.mem_cons_self)
  have hcs : ∀ d ∈ cs, isWordPart d = true := fun d hd => h d (List.mem_cons_of_mem c hd)
  rw [tokens?, tokensOnto?, show Mode.between.step? c = begin? c from rfl, hbegin,
    List.reverse_cons]
  exact tokensOnto?_isWordPart hcs [c]

private theorem wordToken?_of_number {c : Char} {cs : List Char} (hc : c.isDigit = true ∨ c = '-')
    {l : Literal} (hl : Literal.ofChars? (c :: cs) = some l) :
    wordToken? (c :: cs).reverse = some (.atom (.number l.number?)) := by
  have hne (d : Char) (ds : List Char) (hd : d.isDigit = false ∧ d ≠ '-') : c :: cs ≠ d :: ds := by
    intro heq
    obtain ⟨rfl, -⟩ := List.cons.inj heq
    rcases hc with hc | hc
    · rw [hd.1] at hc
      cases hc
    · exact hd.2 hc
  have hnull : (c :: cs == "null".toList) = false := by
    exact beq_eq_false_iff_ne.mpr (hne 'n' _ (by decide))
  have htrue : (c :: cs == "true".toList) = false := by
    exact beq_eq_false_iff_ne.mpr (hne 't' _ (by decide))
  have hfalse : (c :: cs == "false".toList) = false := by
    exact beq_eq_false_iff_ne.mpr (hne 'f' _ (by decide))
  unfold wordToken?
  rw [List.reverse_reverse]
  simp only [hnull, htrue, hfalse, hl, Bool.false_eq_true, if_false, Option.map_some]

/-! ## Digits -/

private theorem digitsThen_of_isDigit {ds : List Char} (h : ∀ c ∈ ds, c.isDigit = true) :
    digitsThen ds = (ds, []) := by
  induction ds with
  | nil => rfl
  | cons c ds ih =>
    have hc : c.isDigit = true := h c List.mem_cons_self
    have hds := ih fun d hd => h d (List.mem_cons_of_mem c hd)
    simp only [digitsThen, Prod.mk.injEq] at hds
    simp [digitsThen, hc, hds.1, hds.2]

/-- Digits of a number, without a zero in front of others. -/
structure Digits (ds : List Char) : Prop where
  isDigit : ∀ c ∈ ds, c.isDigit = true
  ne_nil : ds ≠ []
  lead : ∀ c cs, ds ≠ '0' :: c :: cs

private theorem Digits.ofChars?_minus {ds : List Char} (h : Digits ds) :
    Literal.ofChars? ('-' :: ds) = some ⟨true, ds, none, none⟩ := by
  unfold Literal.ofChars?
  simp only [digitsThen_of_isDigit h.isDigit]
  split
  · exact absurd rfl h.ne_nil
  · exact absurd rfl (h.lead _ _)
  · rfl

private theorem Digits.ofChars? {ds : List Char} (h : Digits ds) :
    Literal.ofChars? ds = some ⟨false, ds, none, none⟩ := by
  have hminus : ∀ rest, ds ≠ '-' :: rest := by
    rintro rest rfl
    cases h.isDigit '-' List.mem_cons_self
  unfold Literal.ofChars?
  split
  next hsign =>
    split at hsign
    · exact absurd rfl (hminus _)
    · cases hsign
      simp only [digitsThen_of_isDigit h.isDigit]
      split
      · exact absurd rfl h.ne_nil
      · exact absurd rfl (h.lead _ _)
      · rfl

private theorem Significand.ofWhole_eq {ds : List Char} {n : Nat}
    (h : Nat.ofDigitChars 10 ds n < UInt64.size) :
    Significand.ofWhole n ds = ⟨Nat.ofDigitChars 10 ds n, 0⟩ := by
  induction ds generalizing n with
  | nil => rfl
  | cons c ds ih =>
    rw [Nat.ofDigitChars_cons] at h ⊢
    have hnext : n * 10 + digitValue c = 10 * n + (c.toNat - '0'.toNat) := by
      rw [Nat.mul_comm]
      rfl
    have hgrows : 10 * n + (c.toNat - '0'.toNat) ≤
        Nat.ofDigitChars 10 ds (10 * n + (c.toNat - '0'.toNat)) := by
      rw [Nat.ofDigitChars_eq_ofDigitChars_zero]
      have hpos : 0 < 10 ^ ds.length := Nat.pow_pos (by decide)
      exact Nat.le_trans (Nat.le_mul_of_pos_left _ hpos) (Nat.le_add_right _ _)
    have hfits : fits n (digitValue c) = true := by
      rw [fits, hnext]
      exact decide_eq_true (Nat.lt_of_le_of_lt hgrows h)
    rw [ofWhole, if_pos hfits, hnext]
    exact ih h

private theorem head_toDigits {n : Nat} (h : 0 < n) : (Nat.toDigits 10 n).head? ≠ some '0' := by
  induction n using Nat.base_induction 10 (by decide) with
  | single m hm =>
    rw [Nat.toDigits_of_lt_base hm]
    simp [Nat.ne_of_gt h]
  | digit m k hk hm ih =>
    rw [← Nat.toDigits_append_toDigits (by decide) hm hk, List.head?_append]
    have hhead := ih hm
    cases hdigits : Nat.toDigits 10 m with
    | nil => exact absurd hdigits Nat.toDigits_ne_nil
    | cons c ds => simpa [hdigits] using hhead

private theorem digits_toDigits (n : Nat) : Digits (Nat.toDigits 10 n) := by
  refine ⟨fun c => Nat.isDigit_of_mem_toDigits (by decide) (by decide), Nat.toDigits_ne_nil, ?_⟩
  intro c cs hds
  rcases Nat.eq_zero_or_pos n with rfl | hn
  · rw [Nat.toDigits_zero] at hds
    cases hds
  · refine head_toDigits hn ?_
    rw [hds]
    rfl

/-! ## Numbers -/

private theorem isWordPart_of_isDigit {c : Char} (h : c.isDigit = true) : isWordPart c = true := by
  simp [isWordPart, h]

private theorem Digits.tokens?_eq {ds : List Char} (h : Digits ds) :
    tokens? ds = some [.atom (.number (Literal.number? ⟨false, ds, none, none⟩))] := by
  cases ds with
  | nil => exact absurd rfl h.ne_nil
  | cons c ds =>
    have hword : ∀ d ∈ c :: ds, isWordPart d = true :=
      fun d hd => isWordPart_of_isDigit (h.isDigit d hd)
    have hc : c.isDigit = true := h.isDigit c List.mem_cons_self
    rw [tokens?_isWordPart hword, wordToken?_of_number (.inl hc) h.ofChars?]
    rfl

private theorem Digits.tokens?_minus {ds : List Char} (h : Digits ds) :
    tokens? ('-' :: ds) = some [.atom (.number (Literal.number? ⟨true, ds, none, none⟩))] := by
  have hword : ∀ d ∈ '-' :: ds, isWordPart d = true := by
    intro d hd
    rcases List.mem_cons.mp hd with rfl | hd
    · rfl
    · exact isWordPart_of_isDigit (h.isDigit d hd)
  rw [tokens?_isWordPart hword, wordToken?_of_number (.inr rfl) h.ofChars?_minus]
  rfl

private theorem ofWhole_toDigits {n : Nat} (h : n < UInt64.size) :
    Significand.ofWhole 0 (Nat.toDigits 10 n) = ⟨n, 0⟩ := by
  have hvalue : Nat.ofDigitChars 10 (Nat.toDigits 10 n) 0 = n := Nat.ofDigitChars_ten_toDigits
  rw [Significand.ofWhole_eq (by rwa [hvalue]), hvalue]

/-- A whole number in the range of integers is read as it is written. -/
theorem Number.legible_int {i : Int} (hlow : -2 ^ 63 ≤ i) (hhigh : i < 2 ^ 64) :
    (Number.int i).Legible := by
  unfold Number.Legible
  cases i with
  | ofNat n =>
    have htext : (Number.int (.ofNat n)).render.toList = Nat.toDigits 10 n := Nat.toList_repr
    have hn : n < UInt64.size := Int.ofNat_lt.mp hhigh
    rw [htext, (digits_toDigits n).tokens?_eq]
    simp [Literal.number?, ofWhole_toDigits hn]
  | negSucc n =>
    have htext : (Number.int (.negSucc n)).render.toList = '-' :: Nat.toDigits 10 (n + 1) := by
      change ("-" ++ Nat.repr (n + 1)).toList = _
      rw [String.toList_append, Nat.toList_repr]
      rfl
    have hn : n + 1 ≤ 2 ^ 63 := by omega
    have hsize : n + 1 < UInt64.size := Nat.lt_of_le_of_lt hn (by decide)
    have hrange : n + 1 ≤ Nat.pow 2 63 := hn
    rw [htext, (digits_toDigits (n + 1)).tokens?_minus]
    simp only [Literal.number?, ofWhole_toDigits hsize]
    simp [hrange, Int.negSucc_eq]

theorem Value.legible_nat {n : Nat} (hn : n < 2 ^ 32) : (Value.nat n).Legible :=
  Number.legible_int (by omega) (by omega)

/-! ## Numbers of 32 bits -/

namespace Decoder

private theorem natBits_int (i : Int) (depth : Nat) : natBits 32 depth (Value.int i).source =
    if 0 ≤ i ∧ i < 2 ^ 32 then some i.toNat else none := by
  have hbounds : (decide (0 ≤ i) && decide (i ≤ (Nat.pow 2 32 : Nat) - 1)) =
      decide (0 ≤ i ∧ i < 2 ^ 32) := by
    have hpow : Nat.pow 2 32 = 2 ^ 32 := rfl
    rw [← Bool.decide_and, hpow]
    exact decide_eq_decide.mpr (by omega)
  rw [natBits, Value.int, Value.source, intBetween, hbounds]
  by_cases h : 0 ≤ i ∧ i < 2 ^ 32 <;> simp [h]

theorem natBits_nat {n : Nat} (hn : n < 2 ^ 32) (depth : Nat) :
    natBits 32 depth (Value.nat n).source = some n := by
  have hrange : 0 ≤ (n : Int) ∧ (n : Int) < 2 ^ 32 := by omega
  exact (natBits_int n depth).trans (if_pos hrange)

theorem natBits_eq_none {v : Value} (h : ∀ n < 2 ^ 32, v ≠ .nat n) (depth : Nat) :
    natBits 32 depth v.source = none := by
  cases v with
  | number m =>
    cases m with
    | float => rfl
    | int i =>
      refine (natBits_int i depth).trans (if_neg ?_)
      rintro ⟨hlow, hhigh⟩
      obtain ⟨n, rfl⟩ := Int.eq_ofNat_of_zero_le hlow
      exact h n (by omega) rfl
  | null | bool | string | array | object => rfl

end Decoder

end Automation.Json
