import PathBag.Proofs.Eval.Respect
import PathBag.Proofs.Marker.Texts
import PathBag.Proofs.Text.Classes
import PathBag.Report

/-!
# The limit of nesting is only a guard

Evaluation that starts with more levels left gives the same outcome, value or fault, unless it was
cut off for going too deep.  One order on outcomes says this: `y` settles `x` when `x` was cut off
or `y` is `x`.  It is a congruence, so the evaluator carries it from the readers that it works
against, and an induction on the levels does the rest (`evalText_settles`).
-/

namespace PathBag

variable {α : Type}

/-- The outcome of an evaluation that went too deep. -/
def CutOff (x : Except Fault α) : Prop := ∃ fault, x = .error fault ∧ fault.report.code = some 503

/-- What `x` says, `y` says too, unless `x` was cut off. -/
def Settles (x y : Except Fault α) : Prop := CutOff x ∨ y = x

theorem cutOff_tooDeep (limit : Nat) (text : String) :
    CutOff (.error (.tooDeep limit text) : Except Fault α) := ⟨_, rfl, rfl⟩

/-- A lookup miss has another code. -/
theorem loud_of_code {fault : Fault} (h : fault.report.code = some 503) : fault.Loud := by
  cases fault with
  | noValue key segment => cases h
  | _ => rfl

namespace Settles

theorem eq_of_not_cutOff {x y : Except Fault α} (h : Settles x y) (hx : ¬ CutOff x) : y = x :=
  h.resolve_left hx

theorem congruence : Congruence fun _ x y => Settles x y where
  ok a := .inr rfl
  loud _ := .inr rfl
  bind {α β x y f g} hxy hfg := by
    rcases hxy with ⟨fault, rfl, hcode⟩ | rfl
    · exact .inl ⟨fault, rfl, hcode⟩
    · cases y with
      | error fault => exact .inr rfl
      | ok a => exact hfg a

/-- A default hides no cut-off. -/
theorem orDefault {x y : Except Fault Value} (h : Settles x y) (f : Value → α) (default : α) :
    Settles (orDefault f default x) (orDefault f default y) := by
  rcases h with ⟨fault, rfl, hcode⟩ | rfl
  · have hloud : fault.isMiss = false := loud_of_code hcode
    exact .inl ⟨fault, by simp [PathBag.orDefault, hloud], hcode⟩
  · exact .inr rfl

/-- Readers whose outcomes settle each other are alike. -/
theorem alike {read read' : Lookup} (h : ∀ key, Settles (read key) (read' key)) :
    Alike (fun _ x y => Settles x y) read read' :=
  .of_orDefault fun f default key => (h key).orDefault f default

end Settles

namespace Live

/-- While a level is left, the value of a text is that of its markers. -/
theorem evalText_succ (tree : Value) (levels : Nat) (text : String) :
    evalText tree (levels + 1) text = Marker.eval (reader tree levels) text := by
  unfold evalText
  split
  · rfl
  · next hbrace =>
    have hnone : Marker.isExpression text = false :=
      Marker.isExpression_eq_false_of_no_brace (by simpa using hbrace)
    exact (Marker.eval_of_not_isExpression _ hnone).symm

/-! ### More levels settle the outcome -/

section Levels

variable (tree : Value)

theorem evalText_settles {levels levels' : Nat} (hle : levels ≤ levels') (text : String) :
    Settles (evalText tree levels text) (evalText tree levels' text) := by
  induction levels generalizing levels' text with
  | zero =>
    unfold evalText
    by_cases hbrace : text.toList.contains '\x7B' = true
    · simp only [hbrace, if_true]
      exact .inl (cutOff_tooDeep _ _)
    · cases levels' <;> simp only [hbrace] <;> exact .inr rfl
  | succ levels ih =>
    obtain ⟨k, rfl⟩ : ∃ k, levels' = k + 1 := ⟨levels' - 1, by omega⟩
    rw [evalText_succ, evalText_succ]
    have hread (key) : Settles (reader tree levels key) (reader tree k key) :=
      Settles.congruence.reader (ih (Nat.le_of_succ_le_succ hle)) fun _ _ => .inr rfl
    exact (Settles.alike hread).text Settles.congruence text

theorem reader_settles {levels levels' : Nat} (hle : levels ≤ levels') (key : String) :
    Settles (reader tree levels key) (reader tree levels' key) :=
  Settles.congruence.reader (evalText_settles tree hle) fun _ _ => .inr rfl

theorem expr_settles {levels levels' : Nat} (hle : levels ≤ levels') (e : Code.Expr) :
    Settles (e.eval (reader tree levels)) (e.eval (reader tree levels')) :=
  (Settles.alike fun key => reader_settles tree hle key).expr Settles.congruence e

end Levels

/-! ### Leaves that are one reference -/

section Reference

variable {tree : Value} {k : List Char}

/-- With no level left, a reference is not followed. -/
theorem evalText_zero_referenceText (tree : Value) (k : List Char) :
    evalText tree 0 (Marker.referenceText k) =
      .error (.tooDeep levelLimit (Marker.referenceText k)) := by
  rw [evalText, if_pos (by simp [Marker.referenceText])]

/-- There are no blanks around a reference to trim. -/
theorem reader_of_raw_reference {levels : Nat} {key : String}
    (hraw : rawReader tree levels key = .ok (.string (Marker.referenceText k))) :
    reader tree levels key = evalText tree levels (Marker.referenceText k) := by
  have htrim : Text.trim (Marker.referenceText k) = Marker.referenceText k :=
    Text.trim_of_bounds (by decide) (by decide) ('\x7B' :: k)
  rw [reader_eq_bind, hraw]
  exact congrArg _ htrim

variable (hne : k ≠ []) (hk : ∀ c ∈ k, Marker.isBrace c = false)

include hne hk

theorem evalText_referenceText (levels : Nat) :
    evalText tree (levels + 1) (Marker.referenceText k) =
      (reader tree levels).get (String.ofList k) Marker.undefined := by
  rw [evalText_succ, Marker.eval_referenceText _ hne hk]

/-- A key whose value is stored as a reference reads as what is referred to, unless the level that
the reference takes is one too many. -/
theorem reader_reference_settles {levels : Nat} {key : String}
    (hraw : rawReader tree levels key = .ok (.string (Marker.referenceText k))) :
    Settles (reader tree levels key)
      ((reader tree levels).get (String.ofList k) Marker.undefined) := by
  rw [reader_of_raw_reference hraw]
  cases levels with
  | zero =>
    rw [evalText_zero_referenceText]
    exact .inl (cutOff_tooDeep _ _)
  | succ levels =>
    rw [evalText_referenceText hne hk]
    exact (Settles.alike fun key => reader_settles tree (Nat.le_succ levels) key).get _ _

end Reference

/-! ### Depths -/

/-- The levels that are left at a depth. -/
def levelsAt (depth : Nat) : Nat := levelLimit - depth

/-- **The limit of nesting is only a guard.**  If evaluation that starts at depth `d` is not cut
off, evaluation that starts at a lesser depth has the same outcome: of a text, of a key, and of an
expression.  And a key that is stored as one reference reads as what the reference names, unless
that read is cut off. -/
theorem outcome_of_shallower (tree : Value) {d' d : Nat} (hle : d' ≤ d) :
    (∀ text, ¬ CutOff (evalText tree (levelsAt d) text) →
      evalText tree (levelsAt d') text = evalText tree (levelsAt d) text) ∧
    (∀ key, ¬ CutOff (reader tree (levelsAt d) key) →
      reader tree (levelsAt d') key = reader tree (levelsAt d) key) ∧
    (∀ e : Code.Expr, ¬ CutOff (e.eval (reader tree (levelsAt d))) →
      e.eval (reader tree (levelsAt d')) = e.eval (reader tree (levelsAt d))) ∧
    (∀ key k, k ≠ [] → (∀ c ∈ k, Marker.isBrace c = false) →
      rawReader tree (levelsAt d) key = .ok (.string (Marker.referenceText k)) →
      ¬ CutOff (reader tree (levelsAt d) key) →
      reader tree (levelsAt d) key =
        (reader tree (levelsAt d)).get (String.ofList k) Marker.undefined) := by
  have hlevels : levelsAt d ≤ levelsAt d' := Nat.sub_le_sub_left hle levelLimit
  refine ⟨fun text h => ?_, fun key h => ?_, fun e h => ?_, fun key k hne hk hraw h => ?_⟩
  · exact (evalText_settles tree hlevels text).eq_of_not_cutOff h
  · exact (reader_settles tree hlevels key).eq_of_not_cutOff h
  · exact (expr_settles tree hlevels e).eq_of_not_cutOff h
  · exact ((reader_reference_settles hne hk hraw).eq_of_not_cutOff h).symm

/-- One level before the limit a reference is still followed, and so it is at the top. -/
theorem outcome_of_shallower_reference :
    0 ≤ 63 ∧
    ¬ CutOff (reader (.mapping [("a", .string "$\x7bb\x7d"), ("b", .int 5)]) (levelsAt 63) "a") ∧
    reader (.mapping [("a", .string "$\x7bb\x7d"), ("b", .int 5)]) (levelsAt 0) "a" =
      .ok (.int 5) ∧
    (reader (.mapping [("a", .string "$\x7bb\x7d"), ("b", .int 5)]) (levelsAt 63)).get "b"
      Marker.undefined = .ok (.int 5) := by
  have hval : reader (.mapping [("a", .string "$\x7bb\x7d"), ("b", .int 5)]) (levelsAt 63) "a" =
      .ok (.int 5) := rfl
  have hcut : ¬ CutOff
      (reader (.mapping [("a", .string "$\x7bb\x7d"), ("b", .int 5)]) (levelsAt 63) "a") := by
    rintro ⟨fault, h, -⟩
    rw [hval] at h
    cases h
  obtain ⟨-, hkey, -, href⟩ := outcome_of_shallower
    (.mapping [("a", .string "$\x7bb\x7d"), ("b", .int 5)]) (by decide : 0 ≤ 63)
  refine ⟨by decide, hcut, (hkey "a" hcut).trans hval, ?_⟩
  have hget := href "a" ['b'] (by decide) (List.forall_mem_singleton.2 rfl) rfl hcut
  exact hget.symm.trans hval

end Live

end PathBag
