import PathBag.Proofs.Eval.Chains
import PathBag.Proofs.Text.Classes

/-!
# References within references

The key of a reference may be a reference itself: `Marker.nested n key` is a key within `n` of them.
Only the innermost one has a key without braces, so a round of evaluation replaces this one by the
text of its value, and what is left is nested one reference less deep (`substitute_nested`).  The
last reference is the whole text, and it is read before a round is counted.  So `j` rounds take off
`j` references (`evalReferences_nested`), and a text of references needs one round less than it has
references (`Live.evalText_nested`).
-/

namespace PathBag

namespace Marker

/-- A key within `n` references, each of which is the key of the next. -/
def nested : (n : Nat) → List Char → List Char
  | 0, key => key
  | n + 1, key => Form.reference.write (nested n key)

/-! ### One round -/

/-- Around a reference the characters of another one are text. -/
theorem pieces_nested_append (n : Nat) (key rest : List Char) :
    Form.reference.pieces (nested (n + 2) key ++ rest) =
      .plain '$' :: .plain '{' :: Form.reference.pieces (nested (n + 1) key ++ '}' :: rest) := by
  have hwrite : nested (n + 2) key ++ rest = '$' :: '{' :: (nested (n + 1) key ++ '}' :: rest) := by
    simp [nested, Form.write]
  have hdollar : Form.reference.take ('$' :: '{' :: (nested (n + 1) key ++ '}' :: rest)) = none := by
    simp [nested, Form.write, Form.take, takeReference, isBrace]
  have hbrace : Form.reference.take ('{' :: (nested (n + 1) key ++ '}' :: rest)) = none := rfl
  rw [hwrite, pieces_of_take_eq_none hdollar, pieces_of_take_eq_none hbrace]

theorem pieces_nested_ne_marker (n : Nat) (key body : List Char) :
    Form.reference.pieces (nested (n + 2) key) ≠ [.marker body] := by
  intro heq
  have hpieces := pieces_nested_append n key []
  rw [List.append_nil, heq] at hpieces
  cases hpieces

section Round

variable {key : List Char} (hne : key ≠ []) (hkey : Plain key)

include hne hkey

theorem pieces_nested_one_append (rest : List Char) :
    Form.reference.pieces (nested 1 key ++ rest) = .marker key :: Form.reference.pieces rest :=
  pieces_write_append hne hkey rest

theorem occursIn_nested_append (n : Nat) (rest : List Char) :
    Form.reference.occursIn (nested (n + 1) key ++ rest) = true := by
  induction n generalizing rest with
  | zero => simp [Form.occursIn, pieces_nested_one_append hne hkey, Piece.isMarker]
  | succ n ih => simpa [Form.occursIn, pieces_nested_append, Piece.isMarker] using ih ('}' :: rest)

theorem occursIn_nested (n : Nat) : Form.reference.occursIn (nested (n + 1) key) = true := by
  simpa using occursIn_nested_append hne hkey n []

theorem substitute_nested_append {f : List Char → Except Fault Value} {v : Value}
    (hv : f key = .ok v) (n : Nat) (rest : List Char) :
    substitute f (Form.reference.pieces (nested (n + 1) key ++ rest)) =
      (substitute f (Form.reference.pieces rest)).map (nested n v.render.toList ++ ·) := by
  induction n generalizing rest with
  | zero =>
    rw [pieces_nested_one_append hne hkey, substitute, hv]
    cases substitute f (Form.reference.pieces rest) <;> rfl
  | succ n ih =>
    have hclose : Form.reference.pieces ('}' :: rest) = .plain '}' :: Form.reference.pieces rest :=
      pieces_of_take_eq_none rfl
    rw [pieces_nested_append, substitute, substitute, ih, hclose, substitute]
    cases substitute f (Form.reference.pieces rest) with
    | error fault => rfl
    | ok cs => exact congrArg Except.ok (by simp [nested, Form.write])

/-- A round replaces the innermost reference and nothing around it. -/
theorem substitute_nested {f : List Char → Except Fault Value} {v : Value} (hv : f key = .ok v)
    (n : Nat) :
    substitute f (Form.reference.pieces (nested (n + 1) key)) = .ok (nested n v.render.toList) := by
  have hround := substitute_nested_append hne hkey hv n []
  rw [List.append_nil] at hround
  rw [hround]
  exact congrArg Except.ok (List.append_nil _)

variable (read : Lookup)

/-- One reference is the whole text, and it is read even if no round is left. -/
theorem evalReferences_nested_one (rounds : Nat) :
    evalReferences read rounds (nested 1 key) = read.get (String.ofList key) undefined := by
  have hpieces : Form.reference.pieces (nested 1 key) = [.marker key] := pieces_write hne hkey
  rw [evalReferences, hpieces]
  rfl

theorem evalReferences_nested_zero (n : Nat) :
    evalReferences read 0 (nested (n + 2) key) =
      .error (.keepsExpanding (String.ofList (nested (n + 2) key))) := by
  have hany : (Form.reference.pieces (nested (n + 2) key)).any Piece.isMarker = true :=
    occursIn_nested hne hkey (n + 1)
  rw [evalReferences]
  split
  · next body heq => exact absurd heq (pieces_nested_ne_marker n key body)
  · rw [if_pos hany]

theorem evalReferences_nested_succ {v : Value}
    (hv : read.get (String.ofList key) undefined = .ok v) (rounds n : Nat) :
    evalReferences read (rounds + 1) (nested (n + 2) key) =
      evalReferences read rounds (nested (n + 1) v.render.toList) := by
  have hvalue : referenceValue read key = .ok v := hv
  rw [evalReferences_of_ne_marker read (pieces_nested_ne_marker n key)
    (occursIn_nested hne hkey (n + 1)), substitute_nested hne hkey hvalue]
  rfl

end Round

/-! ### All rounds -/

/-- Each of `j` rounds takes off one reference and leads on to the next key. -/
theorem evalReferences_nested {read : Lookup} {j : Nat} {k : Nat → String}
    (hname : ∀ i < j, IsName (k i))
    (hnext : ∀ i < j, read.get (k i) undefined = .ok (.string (k (i + 1)))) (rounds n : Nat) :
    evalReferences read (rounds + j) (nested (n + j + 1) (k 0).toList) =
      evalReferences read rounds (nested (n + 1) (k j).toList) := by
  induction j generalizing k with
  | zero => rfl
  | succ j ih =>
    have hzero : IsName (k 0) := hname 0 (by omega)
    have hvalue : read.get (String.ofList (k 0).toList) undefined = .ok (.string (k 1)) := by
      rw [String.ofList_toList]
      exact hnext 0 (by omega)
    calc evalReferences read (rounds + j + 1) (nested (n + j + 2) (k 0).toList)
      _ = evalReferences read (rounds + j) (nested (n + j + 1) (k 1).toList) :=
        evalReferences_nested_succ hzero.toList_ne_nil hzero.not_brace read hvalue _ _
      _ = evalReferences read rounds (nested (n + 1) (k (j + 1)).toList) :=
        ih (k := fun i => k (i + 1)) (fun i hi => hname (i + 1) (by omega))
          fun i hi => hnext (i + 1) (by omega)

end Marker

/-- The child of a tree under a name is a text, the name of another child. -/
structure Value.Names (tree : Value) (key next : String) : Prop where
  name : IsName key
  next_name : IsName next
  next_trimmed : Text.trim next = next
  child : tree.child? key = some (.string next)

namespace Live

open Marker

/-- A text without an opening brace is its own value, whatever level is left. -/
theorem evalText_of_no_brace (tree : Value) (levels : Nat) {text : String}
    (h : '{' ∉ text.toList) : evalText tree levels text = .ok (.string text) := by
  cases levels with
  | zero => simp [evalText, h]
  | succ levels => simp [evalText, h]

theorem reader_names {tree : Value} {key next : String} (h : tree.Names key next) (levels : Nat) :
    reader tree levels key = .ok (.string next) := by
  have hbrace : '{' ∉ next.toList := fun hmem => absurd (h.next_name.not_brace _ hmem) (by decide)
  rw [reader_eq_bind, rawReader_of_child levels h.name h.child, ok_bind, evalWith, h.next_trimmed,
    evalText_of_no_brace tree levels hbrace]

/-- **References are resolved from the inside out, up to the limit of rounds.**  Take names that
each store the next one as a text, and a scalar other than text under the last, and let the text be
`n + 1` references, one within the other, around the first name.  Up to 65 references have this
scalar for their value, and more of them stop at the limit. -/
theorem evalText_nested (tree : Value) (levels : Nat) (k : Nat → String) (n : Nat) {v : Value}
    (hk : ∀ i < n, tree.Names (k i) (k (i + 1))) (hend : IsName (k n))
    (hchild : tree.child? (k n) = some v) (hv : v.isComposite = false) (htext : v.text? = none) :
    (n + 1 ≤ 65 →
      evalText tree (levels + 1) (String.ofList (nested (n + 1) (k 0).toList)) = .ok v) ∧
    (65 < n + 1 → IsRuntimeError 504
      (evalText tree (levels + 1) (String.ofList (nested (n + 1) (k 0).toList)))) := by
  have hname : ∀ i < n, IsName (k i) := fun i hi => (hk i hi).name
  have hnext : ∀ i < n,
      (reader tree levels).get (k i) undefined = .ok (.string (k (i + 1))) := fun i hi =>
    Lookup.getAs_of_ok (reader_names (hk i hi) levels) undefined .any
  rw [evalText_succ, Marker.eval, String.toList_ofList, roundLimit]
  constructor
  · intro hle
    obtain ⟨rest, hrest⟩ : ∃ rest, 64 = rest + n := ⟨64 - n, by omega⟩
    have hrun := evalReferences_nested hname hnext rest 0
    have hread : (reader tree levels).get (k n) undefined = .ok v :=
      Lookup.getAs_of_ok (reader_scalar levels hend hchild hv htext) undefined .any
    rw [Nat.zero_add] at hrun
    rw [hrest, hrun, evalReferences_nested_one hend.toList_ne_nil hend.not_brace,
      String.ofList_toList, hread]
  · intro hlt
    -- 64 rounds leave a text of `m + 2` references
    obtain ⟨m, rfl⟩ : ∃ m, n = m + 65 := ⟨n - 65, by omega⟩
    have hrun := evalReferences_nested (j := 64) (fun i hi => hname i (by omega))
      (fun i hi => hnext i (by omega)) 0 (m + 1)
    have hlast : IsName (k 64) := hname 64 (by omega)
    have hstop := evalReferences_nested_zero hlast.toList_ne_nil hlast.not_brace
      (reader tree levels) m
    rw [hrun.trans hstop]
    exact ⟨.keepsExpanding _, _, rfl, rfl, rfl⟩

end Live

/-! ### A text of any depth -/

namespace Value

/-- The tree of `n` texts, each the name of the next, and a value at the end of them; the names are
the decimals from `0`. -/
def trailOf (n : Nat) (v : Value) : Value :=
  mapping (indexed ((List.range n).map (fun i => string (Decimal.writeNat (i + 1))) ++ [v]))

theorem names_trailOf {n i : Nat} (h : i < n) (v : Value) :
    (trailOf n v).Names (Decimal.writeNat i) (Decimal.writeNat (i + 1)) where
  name := isName_writeNat i
  next_name := isName_writeNat (i + 1)
  next_trimmed := Text.trim_of_no_blank fun c hc => by
    rw [Decimal.writeNat, String.toList_ofList] at hc
    exact Text.isBlank_of_isWordPart
      (Text.isWordPart_of_isDigit (Decimal.isDigit_of_mem_toDigits hc))
  child := child?_row_of_lt h _ v

end Value

/-- The value at the end is found behind 65 references and not behind 66. -/
theorem Live.evalText_nested_boundary :
    evalString (Value.trailOf 64 (.bool true)) (String.ofList (Marker.nested 65 ['0'])) =
      .ok (.bool true) ∧
    IsRuntimeError 504
      (evalString (Value.trailOf 65 (.bool true)) (String.ofList (Marker.nested 66 ['0']))) := by
  have nested (n : Nat) := evalText_nested (Value.trailOf n (.bool true)) 63 Decimal.writeNat n
    (fun i hi => Value.names_trailOf hi _) (isName_writeNat n) (Value.child?_row_last n _ _) rfl rfl
  exact ⟨(nested 64).1 (by decide), (nested 65).2 (by decide)⟩

end PathBag
