import PathBag.Proofs.Bag.Operations
import PathBag.Proofs.Eval.Depth
import PathBag.Proofs.Eval.Walks
import PathBag.Proofs.Tree.Keys
import PathBag.Proofs.Tree.Names

/-!
# Chains of references

A key whose text is one reference reads as the key that the reference names, one level deeper.  So a
chain of references is followed for as many steps as there are levels, and not one more
(`reader_chain`, `reader_chain_tooDeep`), and a cycle is a chain without end.
`Bag.get_of_references` says what this means for what a bag answers.
-/

namespace PathBag

open Marker (referenceText isBrace)

/-- A key of one segment that can stand in a reference: it has characters, and none of them is a
dot, an opening bracket or a brace. -/
def IsName (key : String) : Prop :=
  key ≠ "" ∧ ∀ c ∈ key.toList, c ≠ '.' ∧ c ≠ '[' ∧ isBrace c = false

instance (key : String) : Decidable (IsName key) :=
  @instDecidableAnd _ _ inferInstance (List.decidableBAll _ key.toList)

namespace IsName

variable {key : String}

theorem ofKey (h : IsName key) : Path.ofKey key = [key] :=
  Path.ofKey_of_plain h.1 (fun hmem => (h.2 _ hmem).1 rfl) fun hmem => (h.2 _ hmem).2.1 rfl

theorem toList_ne_nil (h : IsName key) : key.toList ≠ [] := mt String.toList_eq_nil_iff.1 h.1

theorem not_brace (h : IsName key) : ∀ c ∈ key.toList, isBrace c = false :=
  fun c hc => (h.2 c hc).2.2

end IsName

/-- The child of a tree under a name is one reference, to another name. -/
structure Value.Refers (tree : Value) (key next : String) : Prop where
  name : IsName key
  next_name : IsName next
  child : tree.child? key = some (.string (referenceText next.toList))

namespace Live

variable {tree : Value} {key next : String}

theorem rawReader_of_child (levels : Nat) {v : Value} (hkey : IsName key)
    (h : tree.child? key = some v) : rawReader tree levels key = .ok v := by
  rw [rawReader, hkey.ofKey]
  exact findChild_of_child? _ key h

/-! ### One reference -/

/-- A scalar that is no text is read as it is, whatever level is left. -/
theorem reader_scalar (levels : Nat) {v : Value} (hkey : IsName key)
    (h : tree.child? key = some v) (hv : v.isComposite = false) (htext : v.text? = none) :
    reader tree levels key = .ok v := by
  rw [reader_eq_bind, rawReader_of_child levels hkey h]
  cases v with
  | string s => cases htext
  | sequence xs => cases hv
  | mapping es => cases hv
  | _ => rfl

theorem reader_refers_zero (h : tree.Refers key next) :
    reader tree 0 key = .error (.tooDeep levelLimit (referenceText next.toList)) := by
  rw [reader_of_raw_reference (rawReader_of_child 0 h.name h.child), evalText_zero_referenceText]

theorem reader_refers_succ (h : tree.Refers key next) (levels : Nat) :
    reader tree (levels + 1) key = (reader tree levels).get next Marker.undefined := by
  rw [reader_of_raw_reference (rawReader_of_child _ h.name h.child),
    evalText_referenceText h.next_name.toList_ne_nil h.next_name.not_brace, String.ofList_toList]

/-! ### Chains and cycles -/

/-- A chain of references that is no longer than there are levels reads as its end. -/
theorem reader_chain {n levels : Nat} (hle : n ≤ levels) {k : Nat → String} {v : Value}
    (hk : ∀ i < n, tree.Refers (k i) (k (i + 1))) (hend : IsName (k n))
    (hchild : tree.child? (k n) = some v) (hv : v.isComposite = false) (htext : v.text? = none) :
    reader tree levels (k 0) = .ok v := by
  induction n generalizing levels k with
  | zero => exact reader_scalar levels hend hchild hv htext
  | succ n ih =>
    obtain ⟨levels, rfl⟩ : ∃ l, levels = l + 1 := ⟨levels - 1, by omega⟩
    have hrest : reader tree levels (k 1) = .ok v :=
      ih (by omega) (k := fun i => k (i + 1)) (fun i hi => hk (i + 1) (by omega)) hend hchild
    rw [reader_refers_succ (hk 0 (by omega))]
    exact Lookup.getAs_of_ok hrest _ .any

/-- A chain of more references than there are levels stops at the first one too many. -/
theorem reader_chain_tooDeep {levels : Nat} {k : Nat → String}
    (hk : ∀ i ≤ levels, tree.Refers (k i) (k (i + 1))) :
    reader tree levels (k 0) =
      .error (.tooDeep levelLimit (referenceText (k (levels + 1)).toList)) := by
  induction levels generalizing k with
  | zero => exact reader_refers_zero (hk 0 (by omega))
  | succ levels ih =>
    have hrest := ih (k := fun i => k (i + 1)) fun i hi => hk (i + 1) (by omega)
    rw [reader_refers_succ (hk 0 (by omega))]
    exact Lookup.getAs_of_error hrest _ .any

end Live

/-! ### Outcomes -/

theorem isRuntimeError_tooDeep (limit : Nat) (text : String) :
    IsRuntimeError 503 (.error (.tooDeep limit text) : Except Fault Value) :=
  ⟨.tooDeep limit text, _, rfl, rfl, rfl⟩

/-- **The limit of nesting is reached exactly.**  Take names that each store a reference to the
next, and a scalar other than text under the last.  The first of them reads as this scalar over up
to 64 references, and over more it stops at the limit.  Any name in a cycle of references stops at
the limit, however long the cycle is. -/
theorem Bag.get_of_references (tree default : Value) (k : Nat → String) (n : Nat) :
    ((∀ i < n, tree.Refers (k i) (k (i + 1))) → ∀ v, IsName (k n) → tree.child? (k n) = some v →
      v.isComposite = false → v.text? = none →
        (n ≤ 64 → (⟨.live, tree⟩ : Bag).read.get (k 0) default = .ok v) ∧
        (64 < n → IsRuntimeError 503 ((⟨.live, tree⟩ : Bag).read.get (k 0) default))) ∧
    ((∀ i < n, tree.Refers (k i) (k ((i + 1) % n))) → ∀ i < n,
      IsRuntimeError 503 ((⟨.live, tree⟩ : Bag).read.get (k i) default)) := by
  -- reading at the top is reading with all levels left
  have hget {k : Nat → String} (hk : ∀ i ≤ 64, tree.Refers (k i) (k (i + 1))) :
      IsRuntimeError 503 ((⟨.live, tree⟩ : Bag).read.get (k 0) default) := by
    have hstop := Live.reader_chain_tooDeep hk
    have hanswer : Lookup.get (Live.reader tree 64) (k 0) default = .error _ :=
      Lookup.getAs_of_error hstop default .any
    exact hanswer ▸ isRuntimeError_tooDeep _ _
  refine ⟨fun hk v hend hchild hv htext => ⟨fun hle => ?_, fun hlt => ?_⟩, fun hk i hi => ?_⟩
  · have hread : Live.reader tree 64 (k 0) = .ok v :=
      Live.reader_chain hle hk hend hchild hv htext
    exact Lookup.getAs_of_ok hread default .any
  · exact hget fun i hi => hk i (by omega)
  · -- going round the cycle from `k i` is a chain
    have hround : ∀ j, tree.Refers (k ((i + j) % n)) (k ((i + (j + 1)) % n)) := by
      intro j
      have hstep := hk ((i + j) % n) (Nat.mod_lt _ (by omega))
      rwa [Nat.mod_add_mod] at hstep
    have hstop := hget (k := fun j => k ((i + j) % n)) fun j _ => hround j
    rwa [Nat.add_zero, Nat.mod_eq_of_lt hi] at hstop

/-! ### A chain of any length -/

theorem isName_writeNat (i : Nat) : IsName (Decimal.writeNat i) := by
  constructor
  · intro h
    have hread := Decimal.readNat_writeNat i
    rw [h] at hread
    cases hread
  · intro c hc
    have hdigit : Decimal.isDigit c = true := by
      rw [Decimal.writeNat, String.toList_ofList] at hc
      exact Decimal.isDigit_of_mem_toDigits hc
    have hne (d : Char) (hd : Decimal.isDigit d = false) : c ≠ d := by
      rintro rfl
      rw [hdigit] at hd
      cases hd
    have hopen := hne '{' (by decide)
    have hclose := hne '}' (by decide)
    exact ⟨hne '.' (by decide), hne '[' (by decide), by simp [isBrace, hopen, hclose]⟩

namespace Value

/-- The children of a mapping of `n` values in a row and one more behind them. -/
theorem child?_row_of_lt {n i : Nat} (h : i < n) (f : Nat → Value) (v : Value) :
    (mapping (indexed ((List.range n).map f ++ [v]))).child? (Decimal.writeNat i) = some (f i) := by
  rw [child?_indexed, child?_sequence_writeNat]
  simp [List.getElem?_append, h]

theorem child?_row_last (n : Nat) (f : Nat → Value) (v : Value) :
    (mapping (indexed ((List.range n).map f ++ [v]))).child? (Decimal.writeNat n) = some v := by
  rw [child?_indexed, child?_sequence_writeNat]
  simp

/-- The tree of `n` references, each to the next, and a value at the end of them; the names are the
decimals from `0`. -/
def chainOf (n : Nat) (v : Value) : Value :=
  mapping (indexed ((List.range n).map
    (fun i => string (referenceText (Decimal.writeNat (i + 1)).toList)) ++ [v]))

theorem refers_chainOf {n i : Nat} (h : i < n) (v : Value) :
    (chainOf n v).Refers (Decimal.writeNat i) (Decimal.writeNat (i + 1)) where
  name := isName_writeNat i
  next_name := isName_writeNat (i + 1)
  child := child?_row_of_lt h _ v

theorem child?_chainOf (n : Nat) (v : Value) :
    (chainOf n v).child? (Decimal.writeNat n) = some v := child?_row_last n _ v

end Value

/-- Over 64 references a number is read, over 65 it is not, and two names that refer to each other
are not read at all. -/
theorem Bag.get_of_references_boundary :
    (⟨.live, Value.chainOf 64 (.int 7)⟩ : Bag).read.get "0" .null = .ok (.int 7) ∧
    IsRuntimeError 503 ((⟨.live, Value.chainOf 65 (.int 7)⟩ : Bag).read.get "0" .null) ∧
    IsRuntimeError 503 ((⟨.live, .mapping [("a", .string "$\x7bb\x7d"),
      ("b", .string "$\x7ba\x7d")]⟩ : Bag).read.get "b" .null) := by
  have chain (n : Nat) := (Bag.get_of_references (Value.chainOf n (.int 7)) .null
    Decimal.writeNat n).1 (fun i hi => Value.refers_chainOf hi _) (.int 7) (isName_writeNat n)
    (Value.child?_chainOf n _) rfl rfl
  let k : Nat → String := fun i => if i = 0 then "a" else "b"
  have cycle := (Bag.get_of_references (.mapping [("a", .string "$\x7bb\x7d"),
    ("b", .string "$\x7ba\x7d")]) .null k 2).2 fun i hi => by
      have ha : referenceText "a".toList = "$\x7ba\x7d" := by decide
      have hb : referenceText "b".toList = "$\x7bb\x7d" := by decide
      obtain rfl | rfl : i = 0 ∨ i = 1 := by omega
      · exact ⟨by decide, by decide, congrArg (some <| Value.string ·) hb.symm⟩
      · exact ⟨by decide, by decide, congrArg (some <| Value.string ·) ha.symm⟩
  exact ⟨(chain 64).1 (by decide), (chain 65).2 (by decide), cycle 1 (by decide)⟩

end PathBag
