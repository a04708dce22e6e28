import PathBag.Proofs.Code.Arithmetic
import PathBag.Proofs.Code.Paths

/-!
# Integers as code

The canonical text of a 64-bit integer is code as well: digits, or a minus sign and digits, whose
negative is taken.  The value of this code is the integer again (`eval_writeInt64`), with one
exception.  A sign is a token of its own, and the digits of the least integer without their sign are
no 64-bit integer, so its text is no code (`parse_writeInt64_minValue`).
-/

namespace PathBag.Code

open Decimal

/-! ### Digits up to the end -/

theorem scan_toDigits (point : Bool) (m : Nat) :
    ∃ c cs, Nat.toDigits 10 m = c :: cs ∧ Text.isBlank c = false ∧
      scan point c cs =
        (match toInt64? m with
          | some i => .ok (.int i)
          | none => .error (.tooGreat (c :: cs)), []) := by
  obtain ⟨c, cs, hcs, hblank, hscan⟩ := scan_toDigits_append m
  have hend : Ends [] := fun _ h => by cases h
  have hall := hscan point [] hend (by simp)
  rw [List.append_nil] at hall
  exact ⟨c, cs, hcs, hblank, hall⟩

namespace Cursor

variable {k : Cursor} {m : Nat} (hk : k.rest = Nat.toDigits 10 m) {fuel : Nat}
  (hfuel : k.rest.length < fuel)

include hk hfuel

/-- Digits up to the end are one integer, if they are a 64-bit integer. -/
theorem lexemes_digits {n : Int64} (hn : n.toInt = m) :
    ∃ pos stop, k.lexemes fuel = [.ok ⟨.int n, pos⟩, .ok ⟨.stop, stop⟩] := by
  obtain ⟨c, cs, hcs, hblank, hscan⟩ := scan_toDigits (!k.afterDot) m
  rw [toInt64?_eq_some_iff.2 hn] at hscan
  obtain ⟨pos, hnext⟩ := next_of_scan (hk.trans hcs) hblank hscan
  obtain ⟨stop, hstop⟩ := next_of_nil (k := ⟨[], pos, false⟩) rfl
  obtain ⟨fuel, rfl⟩ : ∃ f, fuel = f + 2 := by
    rw [hk, hcs, List.length_cons] at hfuel
    exact ⟨fuel - 2, by omega⟩
  have hend : (Cursor.mk [] pos false).lexemes (fuel + 1) = [.ok ⟨.stop, stop⟩] := by
    rw [lexemes, hstop]
    rfl
  exact ⟨pos, stop, (lexemes_of_next _ hnext rfl).trans (congrArg _ hend)⟩

theorem lexemes_digits_error (hm : toInt64? m = none) :
    ∃ pos, k.lexemes fuel =
      [.error (.numberTooGreat (String.ofList (Nat.toDigits 10 m)) pos)] := by
  obtain ⟨c, cs, hcs, hblank, hscan⟩ := scan_toDigits (!k.afterDot) m
  rw [hm] at hscan
  obtain ⟨start, stop, k', hnext⟩ := next_of_scan_error (hk.trans hcs) hblank hscan
  obtain ⟨fuel, rfl⟩ := Nat.exists_eq_succ_of_ne_zero (Nat.ne_zero_of_lt hfuel)
  rw [← hcs] at hnext
  exact ⟨stop, lexemes_of_next_error fuel hnext⟩

end Cursor

/-! ### Integers -/

variable {n : Int64}

theorem parse_writeInt64_of_nonneg (hn : 0 ≤ n.toInt) :
    parse (writeInt64 n) = .ok (.literal (.int n)) := by
  have htext : (writeInt64 n).toList = Nat.toDigits 10 n.toInt.natAbs := by
    rw [writeInt64, writeInt, if_neg (by omega), writeNat, String.toList_ofList]
  have hcode : ∃ pos stop, Stream.ofCode (writeInt64 n) =
      [.ok ⟨.int n, pos⟩, .ok ⟨.stop, stop⟩] :=
    Cursor.lexemes_digits htext (Nat.lt_succ_self _) (by omega)
  obtain ⟨pos, stop, hcode⟩ := hcode
  rw [parse, hcode]
  rfl

section Negative

variable (hn : n.toInt < 0)

include hn

theorem toList_writeInt64_of_neg :
    (writeInt64 n).toList = '-' :: Nat.toDigits 10 n.toInt.natAbs := by
  rw [writeInt64, writeInt, if_pos hn, String.toList_ofList]

/-- The sign is taken first, and the digits are cut as a text of their own. -/
theorem ofCode_writeInt64_of_neg :
    ∃ (pos : Position) (k : Cursor), k.rest = Nat.toDigits 10 n.toInt.natAbs ∧
      Stream.ofCode (writeInt64 n) =
        .ok ⟨.symbol .minus, pos⟩ :: k.lexemes (writeInt64 n).toList.length := by
  obtain ⟨c, cs, hcs, -, -⟩ := scan_toDigits true n.toInt.natAbs
  have htext : (Cursor.start (writeInt64 n)).rest = '-' :: c :: cs := by
    rw [Cursor.start, toList_writeInt64_of_neg hn, hcs]
  -- a minus sign is a part of no symbol of two characters
  have hscan : scan true '-' (c :: cs) = (.ok (.symbol .minus), c :: cs) := rfl
  obtain ⟨pos, hnext⟩ := Cursor.next_of_scan htext (by decide) hscan
  exact ⟨pos, _, hcs.symm, Cursor.lexemes_of_next _ hnext rfl⟩

theorem length_toDigits_lt :
    (Nat.toDigits 10 n.toInt.natAbs).length < (writeInt64 n).toList.length := by
  rw [toList_writeInt64_of_neg hn]
  exact Nat.lt_succ_self _

theorem parse_writeInt64_of_neg {m : Int64} (hm : m.toInt = -n.toInt) :
    parse (writeInt64 n) = .ok (.unary .negate (.literal (.int m))) := by
  obtain ⟨pos, k, hk, hcode⟩ := ofCode_writeInt64_of_neg hn
  have hfuel : k.rest.length < (writeInt64 n).toList.length := hk ▸ length_toDigits_lt hn
  obtain ⟨pos', stop, hdigits⟩ := Cursor.lexemes_digits hk hfuel (n := m) (by omega)
  rw [parse, hcode, hdigits]
  rfl

end Negative

/-- Without their sign the digits of the least integer are too great. -/
theorem parse_writeInt64_minValue :
    ∃ pos, parse (writeInt64 Int64.minValue) =
      .error (.numberTooGreat (writeNat (2 ^ 63)) pos) := by
  have hneg : Int64.minValue.toInt < 0 := by decide
  have hnat : Int64.minValue.toInt.natAbs = 2 ^ 63 := by decide
  have hnone : toInt64? ((2 ^ 63 : Nat) : Int) = none := by decide
  obtain ⟨pos, k, hk, hcode⟩ := ofCode_writeInt64_of_neg hneg
  have hfuel : k.rest.length < (writeInt64 Int64.minValue).toList.length :=
    hk ▸ length_toDigits_lt hneg
  rw [hnat] at hk
  obtain ⟨stop, hdigits⟩ := Cursor.lexemes_digits_error hk hfuel hnone
  refine ⟨stop, ?_⟩
  rw [parse, hcode, hdigits]
  rfl

/-- **The text of an integer is code for this integer**, unless it is the least one. -/
theorem eval_writeInt64 (read : Lookup) (hn : n ≠ Int64.minValue) :
    parse (writeInt64 n) >>= (·.eval read) = .ok (.int n) := by
  by_cases hneg : n.toInt < 0
  · obtain ⟨m, hm⟩ := exists_toInt_neg hn
    have hback : n.toInt = -m.toInt := by rw [hm, Int.neg_neg]
    rw [parse_writeInt64_of_neg hneg hm]
    exact (negate_int m).fits n hback
  · rw [parse_writeInt64_of_nonneg (Int.not_lt.1 hneg)]
    rfl

end PathBag.Code
