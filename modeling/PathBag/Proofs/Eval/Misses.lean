import PathBag.Proofs.Bag.Operations
import PathBag.Proofs.Eval.Respect

/-!
# Misses stay where they belong

Evaluation looks keys up only through questions that turn a miss into a default, so it never stops
at a miss itself (`evalText_neverMisses`).  The misses of a read are therefore those of its own
path: they name the key that was asked for and a segment of it (`reader_endsIn`).
-/

namespace PathBag

/-- The faults that reading a key may end in: a miss only at a segment of the key. -/
def Fault.Concerns (key : String) (fault : Fault) : Prop :=
  fault.Loud ∨ ∃ segment ∈ Path.ofKey key, fault = .noValue key segment

theorem Fault.Loud.concerns {fault : Fault} (h : fault.Loud) (key : String) :
    fault.Concerns key := .inl h

theorem loud_congruence : Congruence (Stops Fault.Loud) := stops_congruence fun _ h => h

/-- Whatever a reader does, what evaluation hears from it is no miss. -/
theorem neverMisses_alike (read : Lookup) : Alike (Stops Fault.Loud) read read :=
  .of_orDefault fun f default key => orDefault_neverMisses f default (read key)

namespace Live

variable (tree : Value) (levels : Nat)

/-! ### Evaluation -/

theorem evalText_neverMisses (text : String) : NeverMisses (evalText tree levels text) := by
  cases levels with
  | zero =>
    unfold evalText
    split
    · exact (neverMisses_error_iff _).2 rfl
    · exact neverMisses_ok _
  | succ levels =>
    unfold evalText
    split
    · exact (neverMisses_alike _).text loud_congruence text
    · exact neverMisses_ok _

theorem evalWith_neverMisses (v : Value) : NeverMisses (evalWith (evalText tree levels) v) := by
  have hev (text) : Stops Fault.Loud Value (evalText tree levels text) (evalText tree levels text) :=
    evalText_neverMisses tree levels text
  exact loud_congruence.evalWith hev v

theorem expr_neverMisses (e : Code.Expr) : NeverMisses (e.eval (reader tree levels)) :=
  (neverMisses_alike _).expr loud_congruence e

/-! ### Reads -/

theorem rawReader_endsIn (key : String) :
    EndsIn (Fault.Concerns key) (fun _ => True) (rawReader tree levels key) := by
  have hR := stops_congruence fun _ h => Fault.Loud.concerns h key
  have hev (text) :
      Stops (Fault.Concerns key) Value (evalText tree levels text) (evalText tree levels text) :=
    (evalText_neverMisses tree levels text).endsIn fun _ h => h.concerns key
  exact hR.rawReader hev fun segment hs => .inr ⟨segment, hs, rfl⟩

theorem reader_endsIn (key : String) :
    EndsIn (Fault.Concerns key) (fun _ => True) (reader tree levels key) :=
  (rawReader_endsIn tree levels key).bind fun v _ =>
    (evalWith_neverMisses tree levels v).endsIn fun _ h => h.concerns key

end Live

/-! ### Answers -/

/-- What a bag answers about a key, by what reading the key ends in. -/
inductive Bag.Answers (b : Bag) (key : String) : Prop
  /-- A value answers for itself. -/
  | value (v : Value) (read : b.read key = .ok v)
      (get : ∀ default filter,
        b.read.getAs key default filter = .ok (if filter.admits v then v else default))
      (has : ∀ filter, b.read.hasAs key filter = .ok (filter.admits v))
      (count : b.count key = .ok (if key.isEmpty then b.tree.size else v.size))
  /-- A miss of the key itself turns into defaults. -/
  | miss (segment : String) (mem : segment ∈ Path.ofKey key)
      (read : b.read key = .error (.noValue key segment))
      (get : ∀ default filter, b.read.getAs key default filter = .ok default)
      (has : ∀ filter, b.read.hasAs key filter = .ok false)
      (count : b.count key = .ok 0)
  /-- Every other fault comes through. -/
  | fault (fault : Fault) (loud : fault.Loud) (read : b.read key = .error fault)
      (get : ∀ default filter, b.read.getAs key default filter = .error fault)
      (has : ∀ filter, b.read.hasAs key filter = .error fault)
      (count : b.count key = if key.isEmpty then .ok b.tree.size else .error fault)

namespace Bag

variable {b : Bag} {key : String}

/-- The empty key has no segments to miss. -/
theorem isEmpty_eq_false_of_mem_ofKey {segment : String} (h : segment ∈ Path.ofKey key) :
    key.isEmpty = false := by
  refine Bool.eq_false_iff.2 fun hempty => ?_
  rw [String.isEmpty_iff] at hempty
  subst hempty
  cases h

theorem answers (h : EndsIn (Fault.Concerns key) (fun _ => True) (b.read key)) :
    b.Answers key := by
  cases hread : b.read key with
  | ok v =>
    refine .value v hread (Lookup.getAs_of_ok hread) (Lookup.hasAs_of_ok hread) ?_
    cases hkey : key.isEmpty with
    | true => exact b.count_of_empty hkey
    | false => exact b.count_of_ok hkey hread
  | error fault =>
    rcases h.of_eq_error hread with hloud | ⟨segment, hs, rfl⟩
    · have hmiss : fault.isMiss = false := hloud
      refine .fault fault hloud hread (fun default filter => ?_) (fun filter => ?_) ?_
      · rw [Lookup.getAs_of_error hread, hmiss]
        rfl
      · rw [Lookup.hasAs_of_error hread, hmiss]
        rfl
      · cases hkey : key.isEmpty with
        | true => exact b.count_of_empty hkey
        | false =>
          rw [b.count_of_error hkey hread, hmiss]
          rfl
    · exact .miss segment hs hread (Lookup.getAs_of_error hread) (Lookup.hasAs_of_error hread)
        (b.count_of_error (isEmpty_eq_false_of_mem_ofKey hs) hread)

end Bag

namespace Live

/-- **A miss is a miss of the key that was asked for.**  At any level, evaluating a value, a text or
an expression never stops at a miss, and a read, raw or evaluated, misses only its own key at one
of its segments.  So `get`, `has` and `count` give a default for such a miss and for nothing
else. -/
theorem miss_concerns_key (tree : Value) (levels : Nat) :
    (∀ v, NeverMisses (evalWith (evalText tree levels) v)) ∧
    (∀ text, NeverMisses (evalText tree levels text)) ∧
    (∀ e : Code.Expr, NeverMisses (e.eval (reader tree levels))) ∧
    (∀ key, EndsIn (Fault.Concerns key) (fun _ => True) (rawReader tree levels key)) ∧
    (∀ key, EndsIn (Fault.Concerns key) (fun _ => True) (reader tree levels key)) ∧
    ∀ key, Bag.Answers ⟨.live, tree⟩ key :=
  ⟨evalWith_neverMisses tree levels, evalText_neverMisses tree levels,
    expr_neverMisses tree levels, rawReader_endsIn tree levels, reader_endsIn tree levels,
    fun key => Bag.answers (reader_endsIn tree levelLimit key)⟩

/-- What leads nowhere inside a value has a text of its own. -/
example : read (.mapping [("a", .string "$\x7bb\x7d")]) "a" = .ok Marker.undefined := rfl

end Live

end PathBag
