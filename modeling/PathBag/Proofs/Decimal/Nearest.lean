import Mathlib.Tactic.Ring

/-!
# Rounding to 53 significant bits

The numbers that a binary64 float can hold among the integers, in exact arithmetic: an integer with
more than 53 bits gives up the low ones, and what remains is rounded to the nearest, from the middle
to the even one.
-/

namespace PathBag.Decimal

/-- The quotient `n / unit` as the nearest natural, a tie as the even one. -/
def halfEven (n unit : Nat) : Nat :=
  if 2 * (n % unit) < unit then n / unit
  else if 2 * (n % unit) = unit then n / unit + n / unit % 2
  else n / unit + 1

theorem div_le_halfEven (n unit : Nat) : n / unit ≤ halfEven n unit := by
  unfold halfEven
  split
  · exact le_rfl
  · split <;> omega

theorem halfEven_le (n unit : Nat) : halfEven n unit ≤ n / unit + 1 := by
  unfold halfEven
  split
  · omega
  · split <;> omega

@[simp] theorem halfEven_one (n : Nat) : halfEven n 1 = n := by
  simp [halfEven, Nat.mod_one]

/-- Rounding to multiples of one unit keeps the order. -/
theorem halfEven_le_halfEven {n m : Nat} (unit : Nat) (h : n ≤ m) :
    halfEven n unit ≤ halfEven m unit := by
  have hq : n / unit ≤ m / unit := Nat.div_le_div_right h
  rcases Nat.eq_or_lt_of_le hq with heq | hlt
  · -- the same quotient: the remainders are in order
    have hn := Nat.div_add_mod n unit
    have hm := Nat.div_add_mod m unit
    rw [heq] at hn
    have hr : n % unit ≤ m % unit := by omega
    unfold halfEven
    rw [heq]
    split <;> split <;> (try split) <;> (try split) <;> omega
  · calc halfEven n unit ≤ n / unit + 1 := halfEven_le n unit
      _ ≤ m / unit := hlt
      _ ≤ halfEven m unit := div_le_halfEven m unit

/-- How many low bits of a natural a float has no room for. -/
def excess (n : Nat) : Nat := n.log2 - 52

theorem excess_eq_zero {n : Nat} (h : n < 2 ^ 53) : excess n = 0 := by
  rcases Nat.eq_zero_or_pos n with rfl | hpos
  · rfl
  · have := (Nat.log2_lt hpos.ne').2 h
    unfold excess
    omega

theorem excess_le_excess {n m : Nat} (h : n ≤ m) : excess n ≤ excess m := by
  rcases Nat.eq_zero_or_pos n with rfl | hpos
  · exact Nat.zero_le _
  · have hm : m ≠ 0 := by omega
    have hlog : n.log2 ≤ m.log2 := (Nat.le_log2 hm).2 ((Nat.log2_self_le hpos.ne').trans h)
    exact Nat.sub_le_sub_right hlog 52

/-- Without its excess a natural has 53 bits. -/
theorem le_shiftRight_excess {n : Nat} (h : 2 ^ 52 ≤ n) : 2 ^ 52 ≤ n / 2 ^ excess n := by
  have hn : n ≠ 0 := by omega
  have hlog : 52 ≤ n.log2 := (Nat.le_log2 hn).2 h
  rw [Nat.le_div_iff_mul_le (Nat.two_pow_pos _), ← pow_add, excess, Nat.add_sub_cancel' hlog]
  exact Nat.log2_self_le hn

theorem shiftRight_excess_lt (n : Nat) : n / 2 ^ excess n < 2 ^ 53 := by
  rw [Nat.div_lt_iff_lt_mul (Nat.two_pow_pos _), ← pow_add]
  have hlt : n < 2 ^ (n.log2 + 1) := Nat.lt_log2_self
  exact hlt.trans_le (Nat.pow_le_pow_right (by decide) (by unfold excess; omega))

/-- The significant part of a natural: 53 bits of it, rounded, or `2 ^ 53` after a carry. -/
def significand (n : Nat) : Nat := halfEven n (2 ^ excess n)

theorem le_significand {n : Nat} (h : 2 ^ 52 ≤ n) : 2 ^ 52 ≤ significand n :=
  (le_shiftRight_excess h).trans (div_le_halfEven _ _)

theorem significand_le (n : Nat) : significand n ≤ 2 ^ 53 :=
  (halfEven_le _ _).trans (shiftRight_excess_lt n)

/-- The natural of at most 53 significant bits that is nearest to `n`. -/
def nearest (n : Nat) : Nat := significand n * 2 ^ excess n

/-- What rounding adds or takes away is at most half of the last bit that is kept. -/
theorem nearest_close (n : Nat) :
    2 * n ≤ 2 * nearest n + 2 ^ excess n ∧ 2 * nearest n ≤ 2 * n + 2 ^ excess n := by
  have hpos := Nat.two_pow_pos (excess n)
  have hdiv := Nat.div_add_mod' n (2 ^ excess n)
  have hr := Nat.mod_lt n hpos
  unfold nearest significand halfEven
  split
  · omega
  · split
    · rcases Nat.mod_two_eq_zero_or_one (n / 2 ^ excess n) with heven | hodd
      · rw [heven, add_zero]
        omega
      · rw [hodd, add_mul]
        omega
    · rw [add_mul]
      omega

/-- Small naturals have no excess. -/
theorem nearest_of_lt {n : Nat} (h : n < 2 ^ 53) : nearest n = n := by
  simp [nearest, significand, excess_eq_zero h]

theorem nearest_of_le {n : Nat} (h : n ≤ 2 ^ 53) : nearest n = n := by
  rcases Nat.lt_or_eq_of_le h with h | rfl
  · exact nearest_of_lt h
  · decide

/-- Rounding keeps the order, also of naturals that are rounded to different units. -/
theorem nearest_le_nearest {n m : Nat} (h : n ≤ m) : nearest n ≤ nearest m := by
  rcases Nat.eq_or_lt_of_le (excess_le_excess h) with heq | hlt
  · unfold nearest significand
    rw [heq]
    exact Nat.mul_le_mul_right _ (halfEven_le_halfEven _ h)
  · have hm : 2 ^ 52 ≤ m := by
      by_contra hm
      have := excess_eq_zero (n := m) (by omega)
      omega
    calc nearest n ≤ 2 ^ 53 * 2 ^ excess n := Nat.mul_le_mul_right _ (significand_le n)
      _ = 2 ^ 52 * 2 ^ (excess n + 1) := by ring
      _ ≤ 2 ^ 52 * 2 ^ excess m := Nat.mul_le_mul_left _ (Nat.pow_le_pow_right (by decide) hlt)
      _ ≤ nearest m := Nat.mul_le_mul_right _ (le_significand hm)

/-- The integer of at most 53 significant bits that is nearest to `n`. -/
def nearestInt (n : Int) : Int := if n < 0 then -nearest n.natAbs else nearest n.natAbs

theorem nearestInt_of_le {n : Int} (h : n.natAbs ≤ 2 ^ 53) : nearestInt n = n := by
  unfold nearestInt
  rw [nearest_of_le h]
  split <;> omega

/-- Only zero is rounded to zero. -/
theorem nearestInt_eq_zero_iff {n : Int} : nearestInt n = 0 ↔ n = 0 := by
  constructor
  · intro h
    by_contra hn
    have hone : nearest 1 = 1 := nearest_of_lt (by decide)
    have hle := nearest_le_nearest (n := 1) (m := n.natAbs) (by omega)
    unfold nearestInt at h
    split at h <;> omega
  · rintro rfl
    exact nearestInt_of_le (by decide)

theorem nearestInt_le_nearestInt {n m : Int} (h : n ≤ m) : nearestInt n ≤ nearestInt m := by
  unfold nearestInt
  split <;> split
  · have := nearest_le_nearest (n := m.natAbs) (m := n.natAbs) (by omega)
    omega
  · omega
  · omega
  · have := nearest_le_nearest (n := n.natAbs) (m := m.natAbs) (by omega)
    omega

/-- Two integers that are rounded apart are in the order of what they are rounded to. -/
theorem nearestInt_lt_iff {n m : Int} (h : nearestInt n = nearestInt m → n = m) :
    nearestInt n < nearestInt m ↔ n < m := by
  constructor
  · intro hlt
    by_contra hle
    have := nearestInt_le_nearestInt (n := m) (m := n) (by omega)
    omega
  · intro hlt
    have hle := nearestInt_le_nearestInt hlt.le
    rcases hle.lt_or_eq with hlt' | heq
    · exact hlt'
    · exact absurd (h heq) hlt.ne

end PathBag.Decimal
