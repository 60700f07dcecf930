import Mathlib
import IndicatorScript.Number.Double

/-!
# Doubles of natural numbers

A positive natural number that has a finite double is a whole number there as well, and still positive
(`toInt?_ofNat`). Rounding a whole number loses no bits after the point, since it has none.
-/

namespace IndicatorScript.Decimal

open Float.Model (UnpackedFloat Format totalExponent)
open Float.Model.UnpackedFloat

section Fields

variable (b : BitVec 64)

theorem toNat_unpackExponent : (@unpackExponent .binary64 b).toNat = b.toNat >>> 52 % (1 <<< 11) := by
  rw [unpackExponent_def]
  exact BitVec.extractLsb'_toNat 52 11 b

theorem toNat_unpackMantissa : (@unpackMantissa .binary64 b).toNat = b.toNat % (1 <<< 52) := by
  rw [unpackMantissa_def]
  exact BitVec.extractLsb'_toNat 0 52 b

theorem toNat_unpackSign : (@unpackSign .binary64 b).toNat = b.toNat >>> 63 := by
  rw [unpackSign_def]
  refine (BitVec.extractLsb'_toNat 63 1 b).trans (Nat.mod_eq_of_lt ?_)
  have := b.isLt
  rw [Nat.shiftRight_eq_div_pow]
  omega

end Fields

/-- A mantissa and an exponent of a whole number. -/
def IsWhole (m : Nat) (e : Int) : Prop := 0 ≤ e ∨ 2 ^ (-e).toNat ∣ m

theorem IsWhole.least {m : Nat} {e : Int} (whole : IsWhole m e) (pos : 0 < m) : -(m.log2 : Int) ≤ e := by
  rcases whole with nonneg | divides
  · omega
  · have := (Nat.le_log2 pos.ne').mpr (Nat.le_of_dvd pos divides)
    omega

theorem toInt?_of_isWhole {m : Nat} {e : Int} (whole : IsWhole m e) (pos : 0 < m) :
    ∃ i, (Dyadic.finite false m e).toInt? = some i ∧ 1 ≤ i := by
  by_cases nonneg : 0 ≤ e
  · refine ⟨(m <<< e.toNat : Nat), by simp [Dyadic.toInt?, nonneg], ?_⟩
    rw [Nat.shiftLeft_eq]
    exact_mod_cast Nat.mul_pos pos (Nat.two_pow_pos _)
  · have divides := whole.resolve_left nonneg
    refine ⟨(m / 2 ^ (-e).toNat : Nat), ?_, ?_⟩
    · simp [Dyadic.toInt?, nonneg, Nat.shiftLeft_eq, Nat.mod_eq_zero_of_dvd divides]
    · exact_mod_cast Nat.div_pos (Nat.le_of_dvd pos divides) (Nat.two_pow_pos _)

/-- A mantissa with all of its bits. -/
def IsFull (m : Nat) : Prop := 2 ^ 52 ≤ m ∧ m < 2 ^ 53

theorem IsFull.pos {m : Nat} (full : IsFull m) : 0 < m := by
  have := full.1
  omega

theorem IsFull.log2_eq {m : Nat} (full : IsFull m) : m.log2 = 52 := by
  have low := (Nat.le_log2 full.pos.ne').mpr full.1
  have high := (Nat.log2_lt full.pos.ne').mpr full.2
  omega

section Packing

variable {m : Nat} {e : Int} {x : Float}

theorem pack_of_isFull (full : IsFull m) (pos : 0 < m) (most : e ≤ 971) :
    pack .binary64 (.finite .positive m e pos) =
      packComponents .binary64 .positive (BitVec.ofNat 11 (e + 1075).toNat) (BitVec.ofNat 52 m) := by
  have bias : (e + (Format.binary64.exponentBias : Int) + (52 : Nat)).toNat = (e + 1075).toNat := by
    rw [show (Format.binary64.exponentBias : Int) = 1023 from rfl]
    omega
  have inside : ¬ 2 ^ 11 ≤ (e + 1075).toNat + 1 := by omega
  simp only [pack, full.log2_eq, bias]
  rw [if_neg inside]
  exact if_pos rfl

theorem pack_of_large (pos : 0 < m) (large : 971 < e) :
    pack .binary64 (.finite .positive m e pos) = packedInfinity .binary64 .positive := by
  have bias : (e + (Format.binary64.exponentBias : Int) + (52 : Nat)).toNat = (e + 1075).toNat := by
    rw [show (Format.binary64.exponentBias : Int) = 1023 from rfl]
    omega
  have outside : 2 ^ 11 ≤ (e + 1075).toNat + 1 := by omega
  simp only [pack, bias]
  exact if_pos outside

theorem toNat_exponent (least : -1074 ≤ e) (most : e ≤ 971) :
    ((BitVec.ofNat 11 (e + 1075).toNat).toNat : Int) = e + 1075 := by
  rw [BitVec.toNat_ofNat, Nat.mod_eq_of_lt (by omega)]
  omega

theorem toNat_mantissa (full : IsFull m) : leadingBit + (BitVec.ofNat 52 m).toNat = m := by
  have := full.1
  have := full.2
  rw [BitVec.toNat_ofNat, show leadingBit = 2 ^ 52 from rfl]
  omega

theorem unpack_pack_of_isFull (full : IsFull m) (pos : 0 < m) (least : -1074 ≤ e) (most : e ≤ 971) :
    unpack .binary64 (pack .binary64 (.finite .positive m e pos)) = .finite .positive m e pos := by
  have exponent := toNat_exponent least most
  have mantissa : (1#1 ++ BitVec.ofNat 52 m).toNat = m := by
    rw [BitVec.toNat_append, ← Nat.shiftLeft_add_eq_or_of_lt (BitVec.isLt _)]
    exact toNat_mantissa full
  have notTop : BitVec.ofNat 11 (e + 1075).toNat ≠ -1#11 := by
    intro same
    rw [same] at exponent
    have : e + 1075 = 2047 := exponent.symm
    omega
  have notLow : BitVec.ofNat 11 (e + 1075).toNat ≠ 0#11 := by
    intro same
    rw [same] at exponent
    have : e + 1075 = 0 := exponent.symm
    omega
  rw [pack_of_isFull full pos most]
  simp only [unpack, unpackMantissa_packComponents, unpackExponent_packComponents, unpackSign_packComponents]
  rw [if_neg notTop, if_neg notLow]
  simp only [mantissa, exponent, Sign.ofBitVec_toBitVec]
  congr 1
  rw [show (Format.binary64.exponentBias : Int) = 1023 from rfl]
  omega

theorem ofFloat_of_packed (full : IsFull m) (pos : 0 < m) (least : -1074 ≤ e) (most : e ≤ 971)
    (packed : x.toBits.toBitVec = pack .binary64 (.finite .positive m e pos)) :
    Dyadic.ofFloat x = .finite false m e := by
  rw [pack_of_isFull full pos most] at packed
  have sign := toNat_unpackSign x.toBits.toBitVec
  have exponent := toNat_unpackExponent x.toBits.toBitVec
  have mantissa := toNat_unpackMantissa x.toBits.toBitVec
  rw [packed] at sign exponent mantissa
  rw [unpackSign_packComponents] at sign
  rw [unpackExponent_packComponents] at exponent
  rw [unpackMantissa_packComponents] at mantissa
  rw [← packed] at sign exponent mantissa
  have bits : x.toBits.toBitVec.toNat = x.toBits.toNat := rfl
  rw [bits] at sign exponent mantissa
  have biased := toNat_exponent least most
  have notTop : ¬ (BitVec.ofNat 11 (e + 1075).toNat).toNat = 2047 := by omega
  have notLow : ¬ (BitVec.ofNat 11 (e + 1075).toNat).toNat = 0 := by omega
  simp only [Dyadic.ofFloat, ← sign, ← exponent, ← mantissa]
  rw [if_neg notTop, if_neg notLow, toNat_mantissa full]
  congr 1
  rw [show leastExponent = -1074 from rfl]
  omega

end Packing

/-! ## Rounding -/

section Rounding

theorem mantissa_shiftRight (em : ExtendedMantissa) (k : Nat) : (em >>> k).mantissa = em.mantissa / 2 ^ k := by
  change (Nat.repeat ExtendedMantissa.shiftRightOne k em).mantissa = _
  induction k with
  | zero => simp [Nat.repeat]
  | succ k ih =>
    rw [Nat.repeat, ExtendedMantissa.shiftRightOne, ih, pow_succ, Nat.div_div_eq_div_mul]

theorem shiftRight_of_dvd {m k : Nat} (divides : 2 ^ k ∣ m) :
    (⟨m, false, false⟩ : ExtendedMantissa) >>> k = ⟨m / 2 ^ k, false, false⟩ := by
  change Nat.repeat ExtendedMantissa.shiftRightOne k ⟨m, false, false⟩ = _
  induction k with
  | zero => simp [Nat.repeat]
  | succ k ih =>
    have even : m / 2 ^ k % 2 = 0 := by
      rcases divides with ⟨n, rfl⟩
      rw [pow_succ, mul_assoc, Nat.mul_div_cancel_left _ (Nat.two_pow_pos k), Nat.mul_mod_right]
    rw [Nat.repeat, ih (dvd_trans (pow_dvd_pow 2 k.le_succ) divides)]
    simp [ExtendedMantissa.shiftRightOne, even, pow_succ, Nat.div_div_eq_div_mul]

theorem roundedMantissa_bounds (em : ExtendedMantissa) :
    em.mantissa ≤ em.roundedMantissa ∧ em.roundedMantissa ≤ em.mantissa + 1 := by
  rcases em with ⟨m, round, sticky⟩
  cases round <;> cases sticky <;>
    simp [ExtendedMantissa.roundedMantissa, ExtendedMantissa.accuracy, Accuracy.roundToNearestEven]
  omega

theorem targetExponent_eq {m : Nat} {e : Int} (least : -1022 ≤ m.log2 + e) :
    Format.binary64.targetExponent (totalExponent m e) = m.log2 + e - 52 := by
  rw [Format.targetExponent, totalExponent, show Format.binary64.minExponent = -1074 from rfl,
    show (Format.binary64.mantissaBits : Int) = 53 from rfl]
  omega

theorem IsWhole.shift {m : Nat} {e : Int} (whole : IsWhole m e) (k : Nat) : IsWhole (m / 2 ^ k) (e + k) := by
  by_cases nonneg : 0 ≤ e + k
  · exact .inl nonneg
  · rcases whole.resolve_left (by omega) with ⟨n, rfl⟩
    have split : (-e).toNat = k + (-(e + k)).toNat := by omega
    refine .inr ⟨n, ?_⟩
    rw [split, pow_add, mul_assoc, Nat.mul_div_cancel_left _ (Nat.two_pow_pos k)]

theorem shiftToTargetExponent_eq {m k : Nat} {e : Int} (least : -1022 ≤ m.log2 + e) (bits : m.log2 = 52 + k) :
    shiftToTargetExponent .binary64 m e .exact = (ExtendedMantissa.mk m false false >>> k, e + k) := by
  have shift : (Format.binary64.targetExponent (totalExponent m e) - e).toNat = k := by
    rw [targetExponent_eq least]
    omega
  simp only [shiftToTargetExponent, shiftToExponent, shift, ExtendedMantissa.ofMantissaAndAccuracy]

theorem round_eq {m k k' : Nat} {e : Int} {shifted : ExtendedMantissa} (least : -1022 ≤ m.log2 + e)
    (bits : m.log2 = 52 + k) (shifts : ExtendedMantissa.mk m false false >>> k = shifted)
    (least' : -1022 ≤ shifted.roundedMantissa.log2 + (e + k)) (bits' : shifted.roundedMantissa.log2 = 52 + k')
    (pos : 0 < shifted.roundedMantissa / 2 ^ k') :
    roundWithAccuracy .binary64 .positive m e .exact =
      .finite .positive (shifted.roundedMantissa / 2 ^ k') (e + k + k') pos := by
  have final := mantissa_shiftRight (ExtendedMantissa.mk shifted.roundedMantissa false false) k'
  simp only [roundWithAccuracy, shiftToTargetExponent_eq least bits, shifts, shiftToTargetExponent_eq least' bits']
  rw [dif_neg (by rw [final]; exact pos.ne')]
  congr 1

/-- Rounding keeps a whole number whole: only bits after the point are lost. -/
theorem round_whole {m : Nat} {e : Int} (large : 2 ^ 52 ≤ m) (whole : IsWhole m e) :
    ∃ m' e', ∃ pos : 0 < m', roundWithAccuracy .binary64 .positive m e .exact = .finite .positive m' e' pos ∧
      IsFull m' ∧ IsWhole m' e' := by
  have pos : 0 < m := by omega
  have least := whole.least pos
  obtain ⟨k, bits⟩ : ∃ k, m.log2 = 52 + k :=
    Nat.exists_eq_add_of_le ((Nat.le_log2 pos.ne').mpr large)
  obtain ⟨shifted, shifts⟩ : ∃ shifted, ExtendedMantissa.mk m false false >>> k = shifted := ⟨_, rfl⟩
  have full : IsFull (m / 2 ^ k) := by
    have low := (Nat.le_log2 pos.ne').mp bits.ge
    have high := (Nat.log2_lt pos.ne').mp (bits.trans_lt (Nat.lt_succ_self _))
    rw [pow_add] at low
    rw [pow_succ, pow_add, mul_right_comm] at high
    exact ⟨(Nat.le_div_iff_mul_le (Nat.two_pow_pos k)).mpr low, Nat.div_lt_of_lt_mul (mul_comm _ (2 ^ k) ▸ high)⟩
  have quotient : shifted.mantissa = m / 2 ^ k := shifts ▸ mantissa_shiftRight _ k
  have bounds := roundedMantissa_bounds shifted
  rw [quotient] at bounds
  have rounded : IsWhole shifted.roundedMantissa (e + k) := by
    by_cases nonneg : 0 ≤ e + k
    · exact .inl nonneg
    -- all the bits that are shifted out are zero
    · have divides := whole.resolve_left (by omega)
      have exact := shiftRight_of_dvd (m := m) (k := k) (dvd_trans (pow_dvd_pow 2 (by omega)) divides)
      have same : shifted.roundedMantissa = m / 2 ^ k := by
        rw [← shifts, exact]
        rfl
      rw [same]
      exact whole.shift k
  -- a carry out of the mantissa takes one more shift
  obtain ⟨k', bits', full'⟩ : ∃ k', shifted.roundedMantissa.log2 = 52 + k' ∧
      IsFull (shifted.roundedMantissa / 2 ^ k') := by
    rcases Nat.lt_or_ge shifted.roundedMantissa (2 ^ 53) with fits | carries
    · have full' : IsFull shifted.roundedMantissa := ⟨full.1.trans bounds.1, fits⟩
      exact ⟨0, full'.log2_eq, by simpa using full'⟩
    · have top : shifted.roundedMantissa = 2 ^ 53 := by
        have := full.2
        omega
      exact ⟨1, by rw [top, Nat.log2_two_pow], by rw [top]; exact ⟨by norm_num, by norm_num⟩⟩
  refine ⟨_, _, full'.pos, round_eq (by omega) bits shifts (by omega) bits' full'.pos, full', rounded.shift k'⟩

end Rounding

/-! ## Conversion -/

/-- A positive whole number, or one that is beyond the range of doubles. -/
def IsWholeOrInfinite (u : UnpackedFloat) : Prop :=
  u = .infinity .positive ∨ ∃ m e, ∃ pos : 0 < m, u = .finite .positive m e pos ∧ IsFull m ∧ IsWhole m e

theorem IsWholeOrInfinite.unpack_pack {u : UnpackedFloat} (whole : IsWholeOrInfinite u) :
    IsWholeOrInfinite (unpack .binary64 (pack .binary64 u)) := by
  rcases whole with rfl | ⟨m, e, pos, rfl, full, whole⟩
  · exact .inl rfl
  · have least := whole.least pos
    rw [full.log2_eq] at least
    rcases Int.lt_or_le 971 e with large | most
    · rw [pack_of_large pos large]
      exact .inl rfl
    · rw [unpack_pack_of_isFull full pos (by omega) most]
      exact .inr ⟨m, e, pos, rfl, full, whole⟩

theorem IsWhole.extend {m : Nat} {e : Int} (whole : IsWhole m e) (k : Nat) : IsWhole (m * 2 ^ k) (e - k) := by
  by_cases nonneg : 0 ≤ e
  · exact .inr (dvd_mul_of_dvd_right (pow_dvd_pow 2 (by omega)) m)
  · have split : (-(e - k)).toNat = (-e).toNat + k := by omega
    refine .inr ?_
    rw [split, pow_add]
    exact mul_dvd_mul (whole.resolve_left nonneg) dvd_rfl

theorem unpack_one :
    (Float.ofBits 4607182418800017408).toModel.unpack = .finite .positive (2 ^ 52) (-52) (Nat.two_pow_pos 52) := by
  rfl

theorem IsWholeOrInfinite.mul_one {u : UnpackedFloat} (whole : IsWholeOrInfinite u) :
    IsWholeOrInfinite (mul .binary64 u (Float.ofBits 4607182418800017408).toModel.unpack) := by
  rw [unpack_one]
  rcases whole with rfl | ⟨m, e, pos, rfl, full, whole⟩
  · exact .inl rfl
  · exact .inr (round_whole (Nat.le_mul_of_pos_left (2 ^ 52) pos) (whole.extend 52))

theorem isWholeOrInfinite_ofNat {n : Nat} (pos : 0 < n) (small : n < 2 ^ 53) :
    IsWholeOrInfinite (UnpackedFloat.ofNat .binary64 n) := by
  have bits : n.log2 < 53 := (Nat.log2_lt pos.ne').mpr small
  obtain ⟨k, same⟩ : ∃ k, 52 = n.log2 + k := Nat.exists_eq_add_of_le (by omega)
  have positive : compare (n : Int) 0 = .gt := Int.compare_eq_gt.mpr (by omega)
  have shift : (0 - Format.binary64.targetExponent (totalExponent n 0)).toNat = k := by
    rw [targetExponent_eq (by omega)]
    omega
  have large : 2 ^ 52 ≤ n * 2 ^ k := by
    rw [same, pow_add]
    exact Nat.mul_le_mul_right _ ((Nat.le_log2 pos.ne').mp le_rfl)
  have whole : IsWhole (n * 2 ^ k) (0 - k) := IsWhole.extend (.inl le_rfl) k
  simp only [UnpackedFloat.ofNat, ofInt, UnpackedFloat.normalize, positive, UnpackedFloat.round, decreaseExponent,
    Int.toNat_natCast, shift, Nat.shiftLeft_eq]
  exact .inr (round_whole large whole)

theorem isWholeOrInfinite_ofScientific {n : Nat} (pos : 0 < n) :
    IsWholeOrInfinite (UnpackedFloat.ofScientific .binary64 n 0) := by
  have large : 2 ^ 52 ≤ n * 2 ^ 53 := by omega
  have whole : IsWhole (n * 2 ^ 53) (0 - (53 : Nat)) := IsWhole.extend (.inl le_rfl) 53
  have few : ¬ (0 : Int) > 2 ^ Format.binary64.exponentBits := by decide
  have many : ¬ (0 : Int) < -(2 ^ Format.binary64.exponentBits + n.log2) := by
    have : (0 : Int) ≤ 2 ^ Format.binary64.exponentBits := by decide
    omega
  rw [UnpackedFloat.ofScientific, dif_neg pos.ne', if_neg few, if_neg many, if_pos le_rfl]
  simp only [mul, Nat.shiftLeft_eq, Int.toNat_zero, pow_zero, Nat.mul_one, add_zero]
  exact .inr (round_whole large whole)

theorem ofNat_of_lt {n : Nat} (small : n < 2 ^ 53) :
    Float.ofNat n = n.toUInt64.toFloat * Float.ofBits 4607182418800017408 :=
  dif_pos ⟨small, Nat.zero_le 22⟩

theorem ofNat_of_le {n : Nat} (large : ¬ n < 2 ^ 53) : Float.ofNat n = ⟨Float.Model.ofScientific n 0⟩ :=
  dif_neg fun fits => large fits.1

theorem exists_pack_ofNat {n : Nat} (pos : 0 < n) :
    ∃ u, IsWholeOrInfinite u ∧ (Float.ofNat n).toModel = Float.Model.pack u := by
  by_cases small : n < 2 ^ 53
  · have same : n.toUInt64.toNat = n := Nat.mod_eq_of_lt (by omega)
    have whole := isWholeOrInfinite_ofNat pos small
    rw [← same] at whole
    rw [ofNat_of_lt small]
    exact ⟨_, whole.unpack_pack.mul_one, rfl⟩
  · rw [ofNat_of_le small]
    exact ⟨_, isWholeOrInfinite_ofScientific pos, rfl⟩

theorem toInt?_ofNat {n : Nat} (pos : 0 < n) (finite : (Float.ofNat n).isFinite = true) :
    ∃ i, (Dyadic.ofFloat (Float.ofNat n)).toInt? = some i ∧ 1 ≤ i := by
  rcases exists_pack_ofNat pos with ⟨u, whole, packed⟩
  have packed' : (Float.ofNat n).toBits.toBitVec = pack .binary64 u :=
    congrArg (fun model => model.toBits.toBitVec) packed
  have unpacked : (unpack .binary64 (pack .binary64 u)).isFinite = true := by
    rw [← packed']
    exact finite
  rcases whole with rfl | ⟨m, e, positive, rfl, full, whole⟩
  · cases unpacked
  · have least := whole.least positive
    rw [full.log2_eq] at least
    rcases Int.lt_or_le 971 e with large | most
    · rw [pack_of_large positive large] at unpacked
      cases unpacked
    · rw [ofFloat_of_packed full positive (by omega) most packed']
      exact toInt?_of_isWhole whole positive

end IndicatorScript.Decimal
