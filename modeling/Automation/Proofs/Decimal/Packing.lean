import Automation.Decimal
import Mathlib.Tactic.Ring

/-!
# Bit patterns of binary64 numbers

A bit pattern is a sign, an exponent and a fraction, one behind the other. What they say is settled
case by case, and a number in its normal form is packed into parts that say the same again. Without
the sign a bit pattern is a whole number, of which the exponent is the higher part, so that the
larger of two numbers has the larger one. This is the key by which bit patterns are ordered, counted
downwards from `-1` where the sign is negative.
-/

namespace Automation.Decimal

open Float.Model Float.Model.UnpackedFloat

/-! ## The parts of a number -/

/-- What is said by a sign, a biased exponent and the digits of a fraction. -/
inductive Parts (s : Sign) : Nat → Nat → UnpackedFloat → Prop
  | zero : Parts s 0 0 (.zero s)
  | subnormal {f : Nat} (hf : 0 < f) : f < 2 ^ 52 → Parts s 0 f (.finite s f (-1074) hf)
  | normal {b f m : Nat} {e : Int} (hm : 0 < m) : b < 2047 → f < 2 ^ 52 → m = 2 ^ 52 + f →
      e + 1075 = b → -1074 ≤ e → Parts s b f (.finite s m e hm)
  | infinity : Parts s 2047 0 (.infinity s)
  | notANumber {f : Nat} : 0 < f → Parts s 2047 f .notANumber

private theorem Parts.unique {s : Sign} {b f : Nat} {u v : UnpackedFloat} (hu : Parts s b f u)
    (hv : Parts s b f v) : u = v := by
  cases hu with
  | normal _ _ _ hm he _ =>
    cases hv with
    | normal _ _ _ hm' he' _ =>
      obtain rfl := hm.trans hm'.symm
      obtain rfl := add_right_cancel (he.trans he'.symm)
      rfl
    | _ => omega
  | _ => cases hv <;> first | rfl | omega

/-- A significand and an exponent in the form in which a number other than zero is kept: at most 53
digits, and just 53 unless the exponent is the smallest one. -/
structure Canonical (m : Nat) (e : Int) : Prop where
  digits : m < 2 ^ 53
  lowest : -1074 ≤ e
  full : 2 ^ 52 ≤ m ∨ e = -1074

private theorem Parts.canonical {s s' : Sign} {b f m : Nat} {e : Int} {hm : 0 < m}
    (h : Parts s b f (.finite s' m e hm)) : Canonical m e := by
  cases h with
  | subnormal _ hf => exact ⟨by omega, by omega, .inr rfl⟩
  | normal _ hb hf hm he hlow => exact ⟨by omega, hlow, .inl (by omega)⟩

private theorem toNat_append {v w : Nat} (b : BitVec v) (f : BitVec w) :
    (b ++ f).toNat = b.toNat * 2 ^ w + f.toNat := by
  rw [BitVec.toNat_append, ← Nat.shiftLeft_add_eq_or_of_lt f.isLt, Nat.shiftLeft_eq]

private theorem bias_eq : (Format.binary64.exponentBias : Int) = 1023 := rfl

private theorem parts_unpack (b : BitVec Format.binary64.numBits) :
    Parts (.ofBitVec (unpackSign b)) (unpackExponent b).toNat (unpackMantissa b).toNat
      (UnpackedFloat.unpack .binary64 b) := by
  have hf : (unpackMantissa b).toNat < 2 ^ 52 := (unpackMantissa b).isLt
  have hb : (unpackExponent b).toNat < 2 ^ 11 := (unpackExponent b).isLt
  delta UnpackedFloat.unpack
  dsimp only
  by_cases htop : unpackExponent b = -1#_
  · rw [if_pos htop, htop]
    by_cases hzero : unpackMantissa b = 0#_
    · rw [if_pos hzero, hzero]
      exact .infinity
    · rw [if_neg hzero]
      exact .notANumber (Nat.pos_of_ne_zero fun h => hzero (BitVec.eq_of_toNat_eq h))
  · have hv : (unpackExponent b).toNat ≠ 2047 := fun h => htop (BitVec.eq_of_toNat_eq h)
    rw [if_neg htop]
    by_cases hlow : unpackExponent b = 0#_
    · rw [if_pos hlow, hlow]
      by_cases hzero : unpackMantissa b = 0#_
      · rw [dif_pos hzero, hzero]
        exact .zero
      · rw [dif_neg hzero]
        exact .subnormal _ hf
    · have hv' : (unpackExponent b).toNat ≠ 0 := fun h => hlow (BitVec.eq_of_toNat_eq h)
      rw [if_neg hlow, bias_eq]
      refine .normal _ (by omega) hf ?_ ?_ ?_
      · rw [toNat_append]
        rfl
      · change ((unpackExponent b).toNat : Int) - (1023 + 52) + 1075 = _
        omega
      · change _ ≤ ((unpackExponent b).toNat : Int) - (1023 + 52)
        omega

theorem canonical_of_unpack {b : BitVec Format.binary64.numBits} {s : Sign} {m : Nat} {e : Int}
    {hm : 0 < m} (h : UnpackedFloat.unpack .binary64 b = .finite s m e hm) : Canonical m e := by
  have hparts := parts_unpack b
  rw [h] at hparts
  exact hparts.canonical

/-! ## Packing -/

private theorem toNat_packComponents (s : Sign) (b : BitVec 11) (f : BitVec 52) :
    (packComponents .binary64 s b f).toNat =
      s.toBitVec.toNat * 2 ^ 63 + (b.toNat * 2 ^ 52 + f.toNat) := by
  change ((s.toBitVec ++ b : BitVec 12) ++ f).toNat = _
  rw [toNat_append, toNat_append]
  ring

private theorem toNat_unpack (b : BitVec Format.binary64.numBits) :
    b.toNat = (unpackSign b).toNat * 2 ^ 63 +
      ((unpackExponent b).toNat * 2 ^ 52 + (unpackMantissa b).toNat) := by
  have hs : (unpackSign b).toNat = b.toNat >>> 63 % 2 ^ 1 := rfl
  have he : (unpackExponent b).toNat = b.toNat >>> 52 % 2 ^ 11 := rfl
  have hm : (unpackMantissa b).toNat = b.toNat >>> 0 % 2 ^ 52 := rfl
  have hb : b.toNat < 2 ^ 64 := b.isLt
  rw [hs, he, hm]
  simp only [Nat.shiftRight_eq_div_pow]
  omega

private theorem unpack_packComponents {s : Sign} {b : BitVec 11} {f : BitVec 52} {u : UnpackedFloat}
    (h : Parts s b.toNat f.toNat u) :
    UnpackedFloat.unpack .binary64 (packComponents .binary64 s b f) = u := by
  have hparts := parts_unpack (packComponents .binary64 s b f)
  have hb := toNat_unpack (packComponents .binary64 s b f)
  rw [toNat_packComponents] at hb
  rw [unpackExponent_packComponents, unpackMantissa_packComponents] at hparts hb
  have hs : unpackSign (packComponents .binary64 s b f) = s.toBitVec :=
    BitVec.eq_of_toNat_eq (by omega)
  have hsign : Sign.ofBitVec s.toBitVec = s := by cases s <;> rfl
  rw [hs, hsign] at hparts
  exact hparts.unique h

private theorem pack_finite (s : Sign) {m : Nat} {e : Int} (hm : 0 < m) :
    UnpackedFloat.pack .binary64 (.finite s m e hm) =
      let biased := (e + Format.binary64.exponentBias + (52 : Nat)).toNat
      if 2 ^ 11 ≤ biased + 1 then packComponents .binary64 s (-1#11) 0#52
      else if m.log2 + 1 = 53 then packComponents .binary64 s (.ofNat 11 biased) (.ofNat 52 m)
      else packComponents .binary64 s 0#11 (.ofNat 52 m) := rfl

/-- A number is packed by its parts, unless its exponent is too large: then it is packed as an
infinity. -/
theorem exists_pack (s : Sign) {m : Nat} {e : Int} (hm : 0 < m) (canonical : Canonical m e) :
    ∃ b f, UnpackedFloat.pack .binary64 (.finite s m e hm) = packComponents .binary64 s b f ∧
      Parts s b.toNat f.toNat (if e ≤ 971 then .finite s m e hm else .infinity s) := by
  obtain ⟨hdigits, hlowest, hfull⟩ := canonical
  have hlog := Nat.log2_lt (n := m) (k := 52) hm.ne'
  have htop := (Nat.log2_lt (n := m) (k := 53) hm.ne').mpr hdigits
  rw [pack_finite, bias_eq]
  dsimp only
  obtain ⟨b, hb⟩ : ∃ b : Nat, (e + 1023 + (52 : Nat)).toNat = b := ⟨_, rfl⟩
  rw [hb]
  by_cases hlarge : 971 < e
  · rw [if_pos (by omega), if_neg (by omega)]
    exact ⟨_, _, rfl, .infinity⟩
  · rw [if_neg (by omega), if_pos (by omega : e ≤ 971)]
    by_cases hnormal : m.log2 + 1 = 53
    · have hb' : (BitVec.ofNat 11 b).toNat = b := Nat.mod_eq_of_lt (by omega)
      have hf : (BitVec.ofNat 52 m).toNat = m % 2 ^ 52 := rfl
      rw [if_pos hnormal]
      refine ⟨.ofNat 11 b, .ofNat 52 m, rfl, ?_⟩
      rw [hb', hf]
      exact .normal hm (by omega) (by omega) (by omega) (by omega) hlowest
    · have hf : (BitVec.ofNat 52 m).toNat = m := Nat.mod_eq_of_lt (by omega)
      obtain rfl : e = -1074 := by omega
      rw [if_neg hnormal]
      refine ⟨0#11, .ofNat 52 m, rfl, ?_⟩
      rw [hf]
      exact .subnormal hm (by omega)

theorem unpack_pack (s : Sign) {m : Nat} {e : Int} (hm : 0 < m) (canonical : Canonical m e) :
    (Float.Model.pack (.finite s m e hm)).unpack =
      if e ≤ 971 then .finite s m e hm else .infinity s := by
  obtain ⟨b, f, hpack, hparts⟩ := exists_pack s hm canonical
  change UnpackedFloat.unpack .binary64 (UnpackedFloat.pack .binary64 (.finite s m e hm)) = _
  rw [hpack, unpack_packComponents hparts]

private theorem ofBits?_packComponents (b : BitVec 11) (f : BitVec 52) :
    Binary.ofBits? (UInt64.ofBitVec (packComponents .binary64 .positive b f)) =
      if b.toNat = 2047 then none
      else if b.toNat = 0 then some ⟨false, f.toNat, -1074, false⟩
      else some ⟨false, f.toNat + 2 ^ 52, b.toNat - 1075, f.toNat == 0 && b.toNat > 1⟩ := by
  have hb : b.toNat < 2 ^ 11 := b.isLt
  have hf : f.toNat < 2 ^ 52 := f.isLt
  have hn : (UInt64.ofBitVec (packComponents .binary64 .positive b f)).toNat =
      0 * 2 ^ 63 + (b.toNat * 2 ^ 52 + f.toNat) := toNat_packComponents .positive b f
  have hsign : (0 * 2 ^ 63 + (b.toNat * 2 ^ 52 + f.toNat)) / 2 ^ 63 = 0 := by omega
  have hexp : (0 * 2 ^ 63 + (b.toNat * 2 ^ 52 + f.toNat)) / 2 ^ 52 % 2 ^ 11 = b.toNat := by omega
  have hfrac : (0 * 2 ^ 63 + (b.toNat * 2 ^ 52 + f.toNat)) % 2 ^ 52 = f.toNat := by omega
  simp only [Binary.ofBits?, hn, Nat.pow_eq, hsign, hexp, hfrac, beq_iff_eq]
  rfl

/-- A packed number is read back as it was, unless its exponent is too large: then it is packed as
an infinity. -/
theorem ofBits?_pack {m : Nat} {e : Int} {hm : 0 < m} (canonical : Canonical m e) :
    if e ≤ 971 then
      ∃ boundary, Binary.ofBits? (Float.Model.pack (.finite .positive m e hm)).toBits =
        some ⟨false, m, e, boundary⟩
    else Binary.ofBits? (Float.Model.pack (.finite .positive m e hm)).toBits = none := by
  obtain ⟨b, f, hpack, hparts⟩ := exists_pack .positive hm canonical
  have hbits : (Float.Model.pack (.finite .positive m e hm)).toBits =
      UInt64.ofBitVec (packComponents .binary64 .positive b f) := congrArg UInt64.ofBitVec hpack
  rw [hbits, ofBits?_packComponents]
  generalize b.toNat = b at hparts
  generalize f.toNat = f at hparts
  split
  · next hsmall =>
    rw [if_pos hsmall] at hparts
    cases hparts with
    | subnormal => exact ⟨_, rfl⟩
    | normal _ hb _ hm he _ =>
      rw [if_neg (by omega), if_neg (by omega), Nat.add_comm, ← hm, ← he, Int.add_sub_cancel]
      exact ⟨_, rfl⟩
  · next hlarge =>
    rw [if_neg hlarge] at hparts
    cases hparts with
    | infinity => rfl

/-! ## The order of keys -/

/-- The key by the sign and the bits behind it. -/
def signedKey : Sign → Nat → Int
  | .positive, n => n
  | .negative, n => -1 - n

private theorem orderKey_eq (b : BitVec Format.binary64.numBits) : orderKey (UInt64.ofBitVec b) =
    signedKey (.ofBitVec (unpackSign b))
      ((unpackExponent b).toNat * 2 ^ 52 + (unpackMantissa b).toNat) := by
  have hb := toNat_unpack b
  have hf : (unpackMantissa b).toNat < 2 ^ 52 := (unpackMantissa b).isLt
  have he : (unpackExponent b).toNat < 2 ^ 11 := (unpackExponent b).isLt
  have hn : (UInt64.ofBitVec b).toNat = b.toNat := rfl
  have hs : unpackSign b = 0#1 ∨ unpackSign b = 1#1 := by
    generalize unpackSign b = s
    revert s
    decide
  simp only [orderKey, hn, Nat.pow_eq]
  rcases hs with hs | hs
  · rw [hs] at hb ⊢
    change b.toNat = 0 * 2 ^ 63 + _ at hb
    rw [if_pos (by omega), hb]
    simp [signedKey, Sign.ofBitVec]
  · rw [hs] at hb ⊢
    change b.toNat = 1 * 2 ^ 63 + _ at hb
    rw [if_neg (by omega), hb]
    simp [signedKey, Sign.ofBitVec]
    omega

private theorem Parts.key_lt {s s' : Sign} {b b' f f' : Nat} {u v : UnpackedFloat}
    (hu : Parts s b f u) (hv : Parts s' b' f' v) (h : u.lt v = true) :
    signedKey s (b * 2 ^ 52 + f) < signedKey s' (b' * 2 ^ 52 + f') := by
  delta UnpackedFloat.lt UnpackedFloat.compare at h
  -- by the kinds of both numbers and their signs
  cases hu <;> cases hv <;> cases s <;> cases s' <;> dsimp only at h <;>
    simp [signedKey, Ordering.then_eq_lt, Ordering.then_eq_gt, Ordering.swap_eq_lt,
      compare_lt_iff_lt, compare_gt_iff_gt] at h ⊢
  all_goals omega

theorem lt_iff_unpack {x y : Float} : x < y ↔ x.toModel.unpack.lt y.toModel.unpack = true := by
  change decide (x.toModel < y.toModel) = true ↔ _
  exact decide_eq_true_iff

/-- Of two numbers the smaller one has the smaller key. -/
theorem orderKey_lt_of_lt {x y : Float} (h : x < y) : orderKey x.toBits < orderKey y.toBits := by
  have hlt := (parts_unpack x.toBits.toBitVec).key_lt (parts_unpack y.toBits.toBitVec)
    (lt_iff_unpack.mp h)
  rw [← orderKey_eq, ← orderKey_eq] at hlt
  exact hlt

end Automation.Decimal
