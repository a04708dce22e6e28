import PathBag.Code.Eval
import PathBag.Proofs.Code.Lookahead

/-!
# The faults of code

Cutting code into lexemes, reading an expression from them and applying operators stop for reasons
of their own, and none of these is a lookup miss (`parse_neverMisses`, `unaryOp_neverMisses`,
`binaryOp_neverMisses`).
-/

namespace PathBag.Code

/-! ### Operators and functions -/

theorem arithmetic_neverMisses (op : Arithmetic) (v w : Value) : NeverMisses (op.apply v w) := by
  unfold Arithmetic.apply
  split <;> split <;> simp [Fault.isMiss]

theorem sum_neverMisses (v w : Value) : NeverMisses (sum v w) := by
  unfold sum
  split
  · trivial
  · trivial
  · exact arithmetic_neverMisses .add v w

theorem quotient_neverMisses (v w : Value) : NeverMisses (quotient v w) := by
  unfold quotient
  split
  · split
    · rfl
    · dsimp only
      split
      · split
        · split <;> simp [Fault.isMiss]
        · trivial
      · trivial
  · rfl
  · rfl

theorem remainder_neverMisses (v w : Value) : NeverMisses (remainder v w) := by
  unfold remainder
  split
  · split <;> simp [Fault.isMiss]
  · rfl
  · rfl

theorem order_neverMisses (v w : Value) : NeverMisses (order v w) := by
  unfold order
  split
  · trivial
  · split
    · dsimp only
      split
      · trivial
      · split
        · trivial
        · split <;> simp [Fault.isMiss]
    · rfl

theorem unaryOp_neverMisses (op : UnaryOp) (v : Value) : NeverMisses (op.apply v) := by
  unfold UnaryOp.apply
  split
  · trivial
  · split <;> simp [Fault.isMiss]
  · split <;> simp [Fault.isMiss]

theorem binaryOp_neverMisses (op : BinaryOp) (v w : Value) : NeverMisses (op.apply v w) := by
  cases op with
  | lt | le | gt | ge => exact neverMisses_map (order_neverMisses v w) _
  | add => exact sum_neverMisses v w
  | sub => exact arithmetic_neverMisses .sub v w
  | mul => exact arithmetic_neverMisses .mul v w
  | div => exact quotient_neverMisses v w
  | rem => exact remainder_neverMisses v w
  | _ => trivial

theorem length_neverMisses (v : Value) : NeverMisses (Builtin.length v) := by
  unfold Builtin.length
  split
  · trivial
  · split <;> simp [Fault.isMiss]

/-! ### The parser -/

theorem loud_of_isSyntactic {fault : Fault} (h : fault.IsSyntactic) : fault.Loud := by
  cases h with
  | lexical h =>
    obtain ⟨snag, start, stop, rfl⟩ := h
    cases snag <;> rfl
  | refused h => cases h <;> rfl
  | trailing => rfl

theorem parse_neverMisses (code : String) : NeverMisses (parse code) :=
  (parse_isSyntactic code).mono (fun _ => loud_of_isSyntactic) fun _ => id

end PathBag.Code
