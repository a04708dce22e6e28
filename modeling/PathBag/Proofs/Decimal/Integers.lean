import PathBag.Decimal.Text

/-!
# The integers of 64 bits

`toInt64?` finds the 64-bit integer that an integer is, if there is one (`toInt64?_eq_some_iff`).
The negative of one is one again but for the least (`exists_toInt_neg`), and a quotient of two of
them is one but for the least by `-1` (`exists_toInt_tdiv`).
-/

namespace PathBag.Decimal

theorem toInt64?_eq_some_iff {n : Int} {m : Int64} : toInt64? n = some m ↔ m.toInt = n := by
  constructor
  · intro h
    unfold toInt64? at h
    split at h
    · next hrange =>
      cases h
      have hmax : Int64.maxValue.toInt = 2 ^ 63 - 1 := by decide
      exact Int64.toInt_ofInt_of_le hrange.1 (by omega)
    · cases h
  · rintro rfl
    rw [toInt64?, if_pos ⟨Int64.minValue_le_toInt m, Int64.toInt_le m⟩, Int64.ofInt_toInt]

theorem toInt64?_eq_none_iff {n : Int} : toInt64? n = none ↔ ∀ m : Int64, m.toInt ≠ n := by
  rw [Option.eq_none_iff_forall_ne_some]
  exact forall_congr' fun m => not_congr toInt64?_eq_some_iff

theorem toInt64?_toInt (n : Int64) : toInt64? n.toInt = some n := toInt64?_eq_some_iff.2 rfl

theorem toInt64?_natCast (n : Nat) :
    toInt64? n = if (n : Int) ≤ Int64.maxValue.toInt then some (Int64.ofInt n) else none := by
  have hmin : Int64.minValue.toInt ≤ (n : Int) :=
    Int.le_trans (by decide : Int64.minValue.toInt ≤ 0) (Int.natCast_nonneg n)
  simp only [toInt64?, hmin, true_and]

theorem writeInt64_natCast {n : Nat} (h : (n : Int) ≤ Int64.maxValue.toInt) :
    writeInt64 (Int64.ofInt n) = writeNat n := by
  have hmax : Int64.maxValue.toInt = 9223372036854775807 := by decide
  rw [writeInt64, Int64.toInt_ofInt_of_le (by omega) (by omega), writeInt, if_neg (by omega),
    Int.natAbs_natCast]

variable {a b : Int64}

theorem exists_toInt_neg (h : a ≠ Int64.minValue) : ∃ m : Int64, m.toInt = -a.toInt := by
  have hne : a.toInt ≠ -2 ^ 63 := fun ha => h (Int64.toInt_inj.1 ha)
  have hle := a.le_toInt
  have hlt := a.toInt_lt
  exact ⟨Int64.ofInt (-a.toInt), Int64.toInt_ofInt_of_le (by omega) (by omega)⟩

/-! ### Quotients and remainders -/

theorem exists_toInt_tdiv (h : ¬ (a = Int64.minValue ∧ b = -1)) :
    ∃ q : Int64, q.toInt = a.toInt.tdiv b.toInt := by
  refine ⟨a / b, ?_⟩
  by_cases ha : a = Int64.minValue
  · exact Int64.toInt_div_of_ne_right a b fun hb => h ⟨ha, hb⟩
  · exact Int64.toInt_div_of_ne_left a b ha

theorem ofInt_tmod (a b : Int64) : Int64.ofInt (a.toInt.tmod b.toInt) = a % b := by
  rw [← Int64.toInt_mod, Int64.ofInt_toInt]

/-- A factor of the least integer beside `-1` is no 64-bit integer. -/
theorem mul_neg_one_ne_minValue (q : Int64) : q.toInt * (-1 : Int64).toInt ≠ Int64.minValue.toInt := by
  have hneg : (-1 : Int64).toInt = -1 := by decide
  have hlt := q.toInt_lt
  rw [hneg, Int64.toInt_minValue]
  omega

end PathBag.Decimal
