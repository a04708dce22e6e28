import Mathlib
import PathBag.Decimal.Float
import PathBag.Proofs.Decimal.Nearest

/-!
# The floats of integers

What a binary64 float holds when it comes from an integer, and how two such floats compare.  The
conversion shifts the low bits out of a mantissa one by one and keeps what it needs of them in two
bits; here it is one rounding of a natural.
-/

namespace PathBag.Decimal

open Float.Model Float.Model.UnpackedFloat

/-! ### Shifts -/

/-- Of what has been shifted out, is anything left below the round bit? -/
theorem sticky_iff {r unit : Nat} (hr : r < unit) :
    (unit ≤ 2 * r ∨ 2 * r % unit ≠ 0) ↔ r ≠ 0 := by
  constructor
  · rintro (h | h) rfl
    · omega
    · simp at h
  · intro h
    rcases Nat.lt_or_ge (2 * r) unit with hlt | hge
    · exact .inr (by rw [Nat.mod_eq_of_lt hlt]; omega)
    · exact .inl hge

/-- Shifts gather the bits that fall out: the first below the mantissa, and whether any other was
set. -/
theorem shiftRight_exact (n k : Nat) :
    ExtendedMantissa.mk n false false >>> k =
      ⟨n / 2 ^ k, decide (2 ^ k ≤ 2 * (n % 2 ^ k)), decide (2 * (n % 2 ^ k) % 2 ^ k ≠ 0)⟩ := by
  induction k with
  | zero =>
    change ExtendedMantissa.mk n false false = _
    simp [Nat.mod_one]
  | succ k ih =>
    change (ExtendedMantissa.mk n false false >>> k).shiftRightOne = _
    rw [ih]
    have hr : n % 2 ^ k < 2 ^ k := Nat.mod_lt _ (Nat.two_pow_pos k)
    have hmod : n % 2 ^ (k + 1) = n % 2 ^ k + 2 ^ k * (n / 2 ^ k % 2) := Nat.mod_pow_succ
    have hpow : 2 ^ (k + 1) = 2 * 2 ^ k := by ring
    have hbit : n / 2 ^ k % 2 = 0 ∨ n / 2 ^ k % 2 = 1 := by omega
    have hround : n / 2 ^ k % 2 ≠ 0 ↔ 2 ^ (k + 1) ≤ 2 * (n % 2 ^ (k + 1)) := by
      rcases hbit with h | h <;> rw [hmod, hpow, h] <;> omega
    have hlow : 2 * (n % 2 ^ (k + 1)) % 2 ^ (k + 1) = 2 * (n % 2 ^ k) := by
      rw [hmod, hpow, Nat.mul_mod_mul_left, Nat.add_mul_mod_self_left, Nat.mod_mod]
    have hsticky : (2 ^ k ≤ 2 * (n % 2 ^ k) ∨ 2 * (n % 2 ^ k) % 2 ^ k ≠ 0) ↔
        2 * (n % 2 ^ (k + 1)) % 2 ^ (k + 1) ≠ 0 := by
      rw [sticky_iff hr, hlow]
      omega
    unfold ExtendedMantissa.shiftRightOne
    congr 1
    · rw [Nat.div_div_eq_div_mul, ← pow_succ]
    · rw [Bool.eq_iff_iff, bne_iff_ne, decide_eq_true_iff]
      exact hround
    · rw [← Bool.decide_or, decide_eq_decide]
      exact hsticky

theorem roundedMantissa_mk (q : Nat) (round sticky : Bool) :
    (ExtendedMantissa.mk q round sticky).roundedMantissa =
      if round then if sticky then q + 1 else q + q % 2 else q := by
  cases round <;> cases sticky <;> rfl

/-- The two bits are enough to round as if all the bits were there. -/
theorem roundedMantissa_shiftRight (n k : Nat) :
    (ExtendedMantissa.mk n false false >>> k).roundedMantissa = halfEven n (2 ^ k) := by
  have hr : n % 2 ^ k < 2 ^ k := Nat.mod_lt _ (Nat.two_pow_pos k)
  rw [shiftRight_exact, roundedMantissa_mk, halfEven]
  simp only [decide_eq_true_iff]
  by_cases hlt : 2 * (n % 2 ^ k) < 2 ^ k
  · rw [if_neg (by omega), if_pos hlt]
  · have hlow : 2 * (n % 2 ^ k) % 2 ^ k = 2 * (n % 2 ^ k) - 2 ^ k := by
      rw [Nat.mod_eq_sub_mod (by omega), Nat.mod_eq_of_lt (by omega)]
    rw [if_pos (by omega), if_neg hlt, hlow]
    split <;> split <;> omega

/-- A mantissa of 53 bits or more is shifted by its excess. -/
theorem shiftToTargetExponent_exact {n : Nat} {e : Int} (hn : 2 ^ 52 ≤ n) (he : -1074 ≤ e) :
    shiftToTargetExponent .binary64 n e .exact =
      (ExtendedMantissa.mk n false false >>> excess n, e + excess n) := by
  have hlog : 52 ≤ n.log2 := (Nat.le_log2 (by omega)).2 hn
  have htarget : Format.binary64.targetExponent (totalExponent n e) = e + excess n := by
    simp only [Format.targetExponent, totalExponent, Format.mantissaBits, Format.minExponent,
      excess]
    omega
  have hshift : (e + excess n - e).toNat = excess n := by omega
  simp only [shiftToTargetExponent, shiftToExponent, htarget, hshift,
    ExtendedMantissa.ofMantissaAndAccuracy]

/-- Rounding leaves a mantissa of exactly 53 bits, also after a carry. -/
theorem roundWithAccuracy_exact (s : Sign) {n : Nat} {e : Int} (hn : 2 ^ 52 ≤ n)
    (he : -1074 ≤ e) :
    ∃ (m k : Nat) (hpos : 0 < m),
      roundWithAccuracy .binary64 s n e .exact = .finite s m (e + k) hpos ∧
        2 ^ 52 ≤ m ∧ m < 2 ^ 53 ∧ k ≤ excess n + 1 ∧ m * 2 ^ k = nearest n := by
  have hlow := le_significand hn
  have hhigh := significand_le n
  -- the mantissa after the second shift, which does something after a carry only
  have hcarry : significand n / 2 ^ excess (significand n) * 2 ^ excess (significand n) =
      significand n ∧ excess (significand n) ≤ 1 := by
    rcases Nat.lt_or_eq_of_le hhigh with hlt | heq
    · simp [excess_eq_zero hlt]
    · rw [heq]
      decide
  obtain ⟨hback, hone⟩ := hcarry
  have hm : 2 ^ 52 ≤ significand n / 2 ^ excess (significand n) := le_shiftRight_excess hlow
  have hpos : 0 < significand n / 2 ^ excess (significand n) := lt_of_lt_of_le (by decide) hm
  refine ⟨_, excess n + excess (significand n), hpos, ?_, hm, shiftRight_excess_lt _, by omega, ?_⟩
  · have hround : (ExtendedMantissa.mk n false false >>> excess n).roundedMantissa =
        significand n := roundedMantissa_shiftRight n _
    have hmantissa : (ExtendedMantissa.mk (significand n) false false >>>
        excess (significand n)).mantissa = significand n / 2 ^ excess (significand n) := by
      rw [shiftRight_exact]
    have hexponent : -1074 ≤ e + excess n := by omega
    simp only [roundWithAccuracy, shiftToTargetExponent_exact hn he, hround,
      shiftToTargetExponent_exact hlow hexponent, hmantissa]
    rw [dif_neg hpos.ne']
    congr 1
    push_cast
    ring
  · calc significand n / 2 ^ excess (significand n) * 2 ^ (excess n + excess (significand n))
        = significand n / 2 ^ excess (significand n) * 2 ^ excess (significand n) *
            2 ^ excess n := by ring
      _ = nearest n := by rw [hback, nearest]

/-! ### Mantissas of 53 bits -/

/-- A mantissa of 53 bits and an exponent, counted from the least one of an integer, that are
together the natural `n`. -/
structure Parts (m e n : Nat) : Prop where
  low : 2 ^ 52 ≤ m
  high : m < 2 ^ 53
  bounded : e < 1024
  value : m * 2 ^ e = n * 2 ^ 52

namespace Parts

variable {m m' e e' n n' : Nat}

theorem pos (h : Parts m e n) : 0 < m := lt_of_lt_of_le (by decide) h.low

theorem value_pos (h : Parts m e n) : 0 < n := by
  have hscaled := Nat.mul_pos h.pos (Nat.two_pow_pos e)
  rw [h.value] at hscaled
  omega

/-- The three fields of the float, in which the first bit of the mantissa is left out. -/
theorem pack_finite (h : Parts m e n) (s : Sign) :
    UnpackedFloat.pack .binary64 (.finite s m ((e : Int) - 52) h.pos) =
      packComponents .binary64 s (BitVec.ofNat 11 (e + 1023)) (BitVec.ofNat 52 m) := by
  have he := h.bounded
  have hlog : m.log2 = 52 := (Nat.log2_eq_iff h.pos.ne').2 ⟨h.low, h.high⟩
  have hbiased : ((e : Int) - 52 + 1023 + 52).toNat = e + 1023 := by omega
  have hsmall : ¬ 2048 ≤ e + 1023 + 1 := by omega
  simp only [UnpackedFloat.pack, Format.exponentBias, Format.mantissaBits, hlog]
  norm_num
  rw [hbiased, if_neg hsmall]

/-- The first bit comes back when the fields are read. -/
theorem unpack_packComponents (h : Parts m e n) (s : Sign) :
    UnpackedFloat.unpack .binary64
      (packComponents .binary64 s (BitVec.ofNat 11 (e + 1023)) (BitVec.ofNat 52 m)) =
        .finite s m ((e : Int) - 52) h.pos := by
  obtain ⟨hlow, hhigh, he, -⟩ := h
  have hexponent : (BitVec.ofNat 11 (e + 1023)).toNat = e + 1023 := by
    rw [BitVec.toNat_ofNat, Nat.mod_eq_of_lt (by omega)]
  have hones : BitVec.ofNat 11 (e + 1023) ≠ -1#11 := by
    intro h
    have := congrArg BitVec.toNat h
    rw [hexponent] at this
    simp at this
    omega
  have hzeros : BitVec.ofNat 11 (e + 1023) ≠ 0#11 := by
    intro h
    have := congrArg BitVec.toNat h
    rw [hexponent] at this
    simp at this
  have hmantissa : (1#1 ++ BitVec.ofNat 52 m).toNat = m := by
    rw [BitVec.toNat_append, BitVec.toNat_ofNat, BitVec.toNat_ofNat,
      ← Nat.shiftLeft_add_eq_or_of_lt (Nat.mod_lt _ (by decide)), Nat.shiftLeft_eq]
    omega
  have hbiased : ((BitVec.ofNat 11 (e + 1023)).toNat : Int) -
      (Format.binary64.exponentBias + Format.binary64.mantissaBitsWithoutImplicit) = e - 52 := by
    rw [hexponent]
    simp only [Format.exponentBias]
    omega
  simp only [UnpackedFloat.unpack, unpackExponent_packComponents, unpackMantissa_packComponents,
    unpackSign_packComponents, Sign.ofBitVec_toBitVec]
  rw [if_neg hones, if_neg hzeros]
  simp only [hmantissa, hbiased]

/-- The exponent decides first. -/
theorem lt_of_exponent_lt (h : Parts m e n) (h' : Parts m' e' n') (hlt : e < e') : n < n' := by
  have hscaled : n * 2 ^ 52 < n' * 2 ^ 52 := by
    calc n * 2 ^ 52 = m * 2 ^ e := h.value.symm
      _ < 2 ^ 53 * 2 ^ e := Nat.mul_lt_mul_of_pos_right h.high (Nat.two_pow_pos e)
      _ = 2 ^ 52 * 2 ^ (e + 1) := by ring
      _ ≤ 2 ^ 52 * 2 ^ e' := Nat.mul_le_mul_left _ (Nat.pow_le_pow_right (by decide) hlt)
      _ ≤ m' * 2 ^ e' := Nat.mul_le_mul_right _ h'.low
      _ = n' * 2 ^ 52 := h'.value
  omega

theorem lt_of_mantissa_lt (h : Parts m e n) (h' : Parts m' e n') (hlt : m < m') : n < n' := by
  have hscaled := Nat.mul_lt_mul_of_pos_right hlt (Nat.two_pow_pos e)
  rw [h.value, h'.value] at hscaled
  omega

/-- Naturals compare as their parts, by the exponents and then by the mantissas. -/
theorem compare_eq (h : Parts m e n) (h' : Parts m' e' n') :
    (compare ((e : Int) - 52) ((e' : Int) - 52)).then (compare m m') = compare (n : Int) n' := by
  rcases lt_trichotomy e e' with hlt | rfl | hgt
  · have hexponent : compare ((e : Int) - 52) ((e' : Int) - 52) = .lt :=
      compare_lt_iff_lt.2 (by omega)
    rw [hexponent, compare_lt_iff_lt.2 (Int.ofNat_lt.2 (h.lt_of_exponent_lt h' hlt))]
    rfl
  · have hexponent : compare ((e : Int) - 52) ((e : Int) - 52) = .eq := compare_eq_iff_eq.2 rfl
    rw [hexponent]
    change compare m m' = _
    rcases lt_trichotomy m m' with hlt | rfl | hgt
    · have hvalue := h.lt_of_mantissa_lt h' hlt
      rw [compare_lt_iff_lt.2 hlt, compare_lt_iff_lt.2 (Int.ofNat_lt.2 hvalue)]
    · have hvalue : n = n' := by
        have hscaled := h.value.symm.trans h'.value
        omega
      rw [hvalue, compare_eq_iff_eq.2 rfl, compare_eq_iff_eq.2 rfl]
    · have hvalue := h'.lt_of_mantissa_lt h hgt
      rw [compare_gt_iff_gt.2 hgt, compare_gt_iff_gt.2 (Int.ofNat_lt.2 hvalue)]
  · have hexponent : compare ((e : Int) - 52) ((e' : Int) - 52) = .gt :=
      compare_gt_iff_gt.2 (by omega)
    rw [hexponent, compare_gt_iff_gt.2 (Int.ofNat_lt.2 (h'.lt_of_exponent_lt h hgt))]
    rfl

end Parts

/-! ### Floats that are integers -/

theorem compare_neg_neg (n m : Int) : compare (-n) (-m) = (compare n m).swap := by
  rcases lt_trichotomy n m with hlt | rfl | hgt
  · rw [compare_lt_iff_lt.2 hlt, compare_gt_iff_gt.2 (neg_lt_neg hlt)]
    rfl
  · rw [compare_eq_iff_eq.2 rfl, compare_eq_iff_eq.2 rfl]
    rfl
  · rw [compare_gt_iff_gt.2 hgt, compare_lt_iff_lt.2 (neg_lt_neg hgt)]
    rfl

/-- `x` is the float of the integer `n`. -/
inductive Holds : UnpackedFloat → Int → Prop
  | zero (s : Sign) : Holds (.zero s) 0
  | finite (s : Sign) {m e n : Nat} (h : Parts m e n) :
      Holds (.finite s m ((e : Int) - 52) h.pos) (s.apply n)

namespace Holds

variable {x y : UnpackedFloat} {n m : Int}

/-- Packing such a float into bits loses nothing. -/
theorem unpack_pack (h : Holds x n) : (Float.Model.pack x).unpack = x := by
  cases h with
  | zero s => exact unpack_packedZero
  | finite s h =>
    change UnpackedFloat.unpack .binary64 (UnpackedFloat.pack .binary64 _) = _
    rw [h.pack_finite s, h.unpack_packComponents s]

theorem neg (h : Holds x n) : Holds x.neg (-n) := by
  cases h with
  | zero s => exact .zero (-s)
  | @finite s m e n h =>
    have hsign : -s.apply n = (-s).apply n := by
      cases s
      · exact neg_neg _
      · rfl
    rw [hsign]
    exact .finite (-s) h

/-- Floats of integers compare as the integers. -/
theorem compare_eq (hx : Holds x n) (hy : Holds y m) : x.compare y = some (compare n m) := by
  cases hx with
  | zero s =>
    cases hy with
    | zero s' => rfl
    | @finite s' _ _ b h' =>
      have hb := h'.value_pos
      cases s' with
      | negative => exact congrArg some (compare_gt_iff_gt.2 (show -(b : Int) < 0 by omega)).symm
      | positive => exact congrArg some (compare_lt_iff_lt.2 (show 0 < (b : Int) by omega)).symm
  | @finite s _ _ a h =>
    have ha := h.value_pos
    cases hy with
    | zero s' =>
      cases s with
      | negative => exact congrArg some (compare_lt_iff_lt.2 (show -(a : Int) < 0 by omega)).symm
      | positive => exact congrArg some (compare_gt_iff_gt.2 (show 0 < (a : Int) by omega)).symm
    | @finite s' _ _ b h' =>
      have hb := h'.value_pos
      have hparts := h.compare_eq h'
      cases s <;> cases s'
      · -- below zero the order turns round
        change some (Ordering.swap _) = some (compare (-(a : Int)) (-(b : Int)))
        rw [hparts, compare_neg_neg]
      · exact congrArg some (compare_lt_iff_lt.2 (show -(a : Int) < b by omega)).symm
      · exact congrArg some (compare_gt_iff_gt.2 (show -(b : Int) < a by omega)).symm
      · exact congrArg some hparts

end Holds

/-- Naturals of up to 64 bits become the float of the natural nearest to them. -/
theorem holds_round {n : Nat} (hpos : 0 < n) (hn : n < 2 ^ 64) :
    Holds (UnpackedFloat.round .binary64 .positive n 0) (nearest n) := by
  have hlog : n.log2 < 64 := (Nat.log2_lt hpos.ne').2 hn
  -- a short natural is first filled up with zeros to 53 bits
  obtain ⟨j, hj⟩ : ∃ j, j = 52 - n.log2 := ⟨_, rfl⟩
  have hfill : 2 ^ 52 ≤ n * 2 ^ j := by
    calc 2 ^ 52 ≤ 2 ^ (n.log2 + j) := Nat.pow_le_pow_right (by decide) (by omega)
      _ = 2 ^ n.log2 * 2 ^ j := pow_add ..
      _ ≤ n * 2 ^ j := Nat.mul_le_mul_right _ (Nat.log2_self_le hpos.ne')
  have hround : UnpackedFloat.round .binary64 .positive n 0 =
      roundWithAccuracy .binary64 .positive (n * 2 ^ j) (-j) .exact := by
    have hshift : (-Format.binary64.targetExponent (totalExponent n 0)).toNat = j := by
      simp only [Format.targetExponent, totalExponent, Format.mantissaBits, Format.minExponent]
      omega
    simp only [UnpackedFloat.round, decreaseExponent, zero_sub, hshift, Nat.shiftLeft_eq]
  have hnearest : nearest (n * 2 ^ j) = nearest n * 2 ^ j ∧ excess (n * 2 ^ j) < 12 := by
    rcases Nat.eq_zero_or_pos j with h0 | hjpos
    · rw [h0, pow_zero, mul_one, mul_one]
      exact ⟨rfl, by unfold excess; omega⟩
    · have hshort : n * 2 ^ j < 2 ^ 53 := by
        calc n * 2 ^ j < 2 ^ (n.log2 + 1) * 2 ^ j :=
              Nat.mul_lt_mul_of_pos_right Nat.lt_log2_self (Nat.two_pow_pos j)
          _ = 2 ^ 53 := by rw [← pow_add]; congr 1; omega
      have hle : n ≤ n * 2 ^ j := Nat.le_mul_of_pos_right _ (Nat.two_pow_pos j)
      rw [nearest_of_lt hshort, nearest_of_lt (hle.trans_lt hshort), excess_eq_zero hshort]
      exact ⟨rfl, by decide⟩
  obtain ⟨hscaled, hexcess⟩ := hnearest
  obtain ⟨m, k, hm, heq, hlow, hhigh, hk, hvalue⟩ :=
    roundWithAccuracy_exact .positive (e := -j) hfill (by omega)
  have hexponent : (-j : Int) + k = ((k + 52 - j : Nat) : Int) - 52 := by omega
  have hvalue' : m * 2 ^ (k + 52 - j) = nearest n * 2 ^ 52 := by
    calc m * 2 ^ (k + 52 - j) = m * 2 ^ k * 2 ^ (52 - j) := by
          rw [mul_assoc, ← pow_add]; congr 2; omega
      _ = nearest n * 2 ^ j * 2 ^ (52 - j) := by rw [hvalue, hscaled]
      _ = nearest n * 2 ^ 52 := by rw [mul_assoc, ← pow_add]; congr 2; omega
  rw [hround, heq]
  simp only [hexponent]
  exact .finite .positive ⟨hlow, hhigh, by omega, hvalue'⟩

theorem holds_toFloat (n : UInt64) : Holds n.toFloat.toModel.unpack (nearest n.toNat) := by
  have hofUInt64 : Holds (UnpackedFloat.ofUInt64 .binary64 n) (nearest n.toNat) := by
    unfold UnpackedFloat.ofUInt64 UnpackedFloat.ofNat UnpackedFloat.ofInt
      UnpackedFloat.normalize
    rcases Nat.eq_zero_or_pos n.toNat with hzero | hpos
    · rw [hzero]
      exact .zero _
    · have hgt : compare (n.toNat : Int) 0 = .gt := compare_gt_iff_gt.2 (by omega)
      rw [hgt]
      exact holds_round hpos n.toNat_lt
  rw [← hofUInt64.unpack_pack] at hofUInt64
  exact hofUInt64

/-- The float of an integer holds the integer of 53 significant bits that is nearest to it. -/
theorem holds_floatOfInt64 (n : Int64) :
    Holds (floatOfInt64 n).toModel.unpack (nearestInt n.toInt) := by
  have hmagnitude : n.toInt.natAbs.toUInt64.toNat = n.toInt.natAbs := by
    have hlow := n.le_toInt
    have hhigh := n.toInt_lt
    exact UInt64.toNat_ofNat_of_lt' (by rw [UInt64.size]; omega)
  have hholds := holds_toFloat n.toInt.natAbs.toUInt64
  rw [hmagnitude] at hholds
  unfold floatOfInt64 nearestInt
  split
  · have hneg := hholds.neg
    rw [← hneg.unpack_pack] at hneg
    exact hneg
  · exact hholds

theorem floatOfInt64_beq (n m : Int64) :
    (floatOfInt64 n == floatOfInt64 m) = decide (nearestInt n.toInt = nearestInt m.toInt) := by
  have hcompare := (holds_floatOfInt64 n).compare_eq (holds_floatOfInt64 m)
  change ((floatOfInt64 n).toModel.unpack.compare (floatOfInt64 m).toModel.unpack ==
    some .eq) = _
  rw [hcompare, Bool.eq_iff_iff, beq_iff_eq, Option.some_inj, compare_eq_iff_eq,
    decide_eq_true_iff]

/-- The float of an integer is zero only if the integer is. -/
theorem floatOfInt64_beq_zero (n : Int64) : (floatOfInt64 n == 0.0) = decide (n = 0) := by
  have hzero : (0.0 : Float).toModel.unpack = .zero .positive := rfl
  have hcompare := (holds_floatOfInt64 n).compare_eq (Holds.zero .positive)
  change ((floatOfInt64 n).toModel.unpack.compare (0.0 : Float).toModel.unpack == some .eq) = _
  rw [hzero, hcompare, Bool.eq_iff_iff, beq_iff_eq, Option.some_inj, compare_eq_iff_eq,
    decide_eq_true_iff, nearestInt_eq_zero_iff, ← Int64.toInt_zero, Int64.toInt_inj]

theorem floatOfInt64_lt (n m : Int64) :
    floatOfInt64 n < floatOfInt64 m ↔ nearestInt n.toInt < nearestInt m.toInt := by
  have hcompare := (holds_floatOfInt64 n).compare_eq (holds_floatOfInt64 m)
  change decide (((floatOfInt64 n).toModel.unpack.compare (floatOfInt64 m).toModel.unpack ==
    some .lt) = true) = true ↔ _
  rw [hcompare, decide_eq_true_iff, beq_iff_eq, Option.some_inj, compare_lt_iff_lt]

end PathBag.Decimal
