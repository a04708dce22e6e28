import PathBag.Bag
import PathBag.Proofs.Eval.Walks
import PathBag.Proofs.Marker.Texts
import PathBag.Proofs.Text.Classes
import PathBag.Proofs.Tree.Texts

/-!
# Reading trees without markers

`v.Inert`: no name and no string leaf of `v` holds a marker.  On such a tree the live walk takes
the plain one's steps and misses where it misses (`walk_of_inert`), and evaluation changes nothing
but the blanks around the strings (`evalWith_of_inert`).  A string may still hold stray braces.
-/

namespace PathBag

open Marker (isExpression)

/-! ### Inert values -/

/-- No segment of the path holds a marker. -/
def Path.Inert (path : Path) : Prop := ∀ segment ∈ path, isExpression segment = false

instance (path : Path) : Decidable path.Inert := inferInstanceAs (Decidable (∀ _ ∈ _, _))

namespace Value

/-- No name and no string leaf holds a marker. -/
def Inert (v : Value) : Prop := v.Each fun s => isExpression s = false

instance (v : Value) : Decidable v.Inert := inferInstanceAs (Decidable (v.Each _))

theorem isExpression_writeNat (n : Nat) : isExpression (Decimal.writeNat n) = false := by
  refine Marker.isExpression_eq_false_of_no_brace fun h => ?_
  rw [Decimal.writeNat, String.toList_ofList] at h
  exact absurd (Decimal.isDigit_of_mem_toDigits h) (by decide)

/-! ### Trimmed values -/

mutual

/-- The value with every string leaf trimmed; names stay. -/
def trimmed : Value → Value
  | string s => string (Text.trim s)
  | sequence xs => sequence (trimmedItems xs)
  | mapping es => mapping (trimmedEntries es)
  | v => v

/-- The items with every string leaf trimmed. -/
def trimmedItems : List Value → List Value
  | [] => []
  | x :: xs => x.trimmed :: trimmedItems xs

/-- The entries with every string leaf trimmed. -/
def trimmedEntries : List (String × Value) → List (String × Value)
  | [] => []
  | (name, x) :: es => (name, x.trimmed) :: trimmedEntries es

end

theorem length_trimmedItems (xs : List Value) : (trimmedItems xs).length = xs.length := by
  induction xs with
  | nil => rfl
  | cons x xs ih => simp [trimmedItems, ih]

theorem length_trimmedEntries (es : List (String × Value)) :
    (trimmedEntries es).length = es.length := by
  induction es with
  | nil => rfl
  | cons e es ih => simp [trimmedEntries, ih]

@[simp] theorem size_trimmed (v : Value) : v.trimmed.size = v.size := by
  cases v with
  | sequence xs => exact length_trimmedItems xs
  | mapping es => exact length_trimmedEntries es
  | _ => rfl

end Value

/-! ### Evaluation -/

theorem isExpression_trim {s : String} (h : isExpression s = false) :
    isExpression (Text.trim s) = false :=
  Marker.isExpression_eq_false_of_part (Text.isInfix_trim s) h

namespace Live

/-- A text without markers is its own value while there is a level left. -/
theorem evalText_of_inert (tree : Value) (levels : Nat) {text : String}
    (h : isExpression text = false) : evalText tree (levels + 1) text = .ok (.string text) := by
  unfold evalText
  split
  · exact Marker.eval_of_not_isExpression _ h
  · rfl

theorem evalString_of_inert (tree : Value) (text : String) (h : isExpression text = false) :
    evalString tree text = .ok (.string text) := evalText_of_inert tree 63 h

/-- **Recognition is exact, and what is not recognised is left alone.**  A text counts as an
expression exactly if some part of it is spelled as a marker of one of the three forms.  A marker of
a form stands only in a text with the opening of that form.  And a text that is no expression is its
own value at every depth below the limit, whatever the tree. -/
theorem isExpression_exact (text : String) :
    (isExpression text = true ↔
      ∃ (form : Marker.Form) (m : List Char), Marker.Spells form m ∧ m <:+: text.toList) ∧
    (∀ form : Marker.Form, form.occursIn text.toList = true → form.opening <:+: text.toList) ∧
    (isExpression text = false → ∀ (tree : Value) (depth : Nat), depth < levelLimit →
      evalText tree (levelLimit - depth) text = .ok (.string text)) := by
  refine ⟨Marker.isExpression_iff, fun form h => Marker.opening_of_occursIn h, ?_⟩
  intro h tree depth hdepth
  obtain ⟨levels, hlevels⟩ : ∃ levels, levelLimit - depth = levels + 1 :=
    ⟨levelLimit - depth - 1, by omega⟩
  rw [hlevels]
  exact evalText_of_inert tree levels h

/-- Openings without a body or without their blanks are no markers, and neither is a reference
around other braces; one brace more in front of a placeholder does not hide it. -/
theorem isExpression_exact_stray :
    (isExpression "$\x7b\x7d \x7b\x7ba\x7d\x7d \x7b% %\x7d $\x7b \x7bb\x7d \x7d" = false ∧
      evalText .null (levelLimit - 63)
        "$\x7b\x7d \x7b\x7ba\x7d\x7d \x7b% %\x7d $\x7b \x7bb\x7d \x7d" =
          .ok (.string "$\x7b\x7d \x7b\x7ba\x7d\x7d \x7b% %\x7d $\x7b \x7bb\x7d \x7d")) ∧
    isExpression "\x7b\x7b\x7b a \x7d\x7d" = true := by
  have hstray : isExpression
      "$\x7b\x7d \x7b\x7ba\x7d\x7d \x7b% %\x7d $\x7b \x7bb\x7d \x7d" = false := by
    decide +kernel
  refine ⟨⟨hstray, (isExpression_exact _).2.2 hstray .null 63 (by decide)⟩, ?_⟩
  refine (isExpression_exact _).1.2 ⟨.placeholder, Marker.Form.placeholder.write ['a'], ?_, ?_⟩
  · exact .placeholder (by decide) (by decide) (by decide)
  · exact ⟨['\x7b'], [], by decide⟩

section Inert

variable {ev : String → Except Fault Value}

mutual

theorem evalWith_of_inert (hev : ∀ s, isExpression s = false → ev s = .ok (.string s)) :
    ∀ {v : Value}, v.Inert → evalWith ev v = .ok v.trimmed
  | .null, _ | .bool _, _ | .int _, _ | .float _, _ => rfl
  | .string _, h => hev _ (isExpression_trim ((Value.each_string _).1 h))
  | .sequence xs, h => by
    rw [evalWith, evalItems_of_inert hev ((Value.each_sequence xs).1 h)]
    rfl
  | .mapping es, h => by
    rw [evalWith, evalEntries_of_inert hev ((Value.each_mapping es).1 h)]
    rfl

theorem evalItems_of_inert (hev : ∀ s, isExpression s = false → ev s = .ok (.string s)) :
    ∀ {xs : List Value}, (∀ x ∈ xs, x.Inert) → evalItems ev xs = .ok (Value.trimmedItems xs)
  | [], _ => rfl
  | x :: xs, h => by
    obtain ⟨hx, hxs⟩ := List.forall_mem_cons.1 h
    rw [evalItems, evalWith_of_inert hev hx, evalItems_of_inert hev hxs]
    rfl

theorem evalEntries_of_inert (hev : ∀ s, isExpression s = false → ev s = .ok (.string s)) :
    ∀ {es : List (String × Value)}, (∀ e ∈ es, isExpression e.1 = false ∧ e.2.Inert) →
    evalEntries ev es = .ok (Value.trimmedEntries es)
  | [], _ => rfl
  | (name, x) :: es, h => by
    obtain ⟨⟨-, hx⟩, hes⟩ := List.forall_mem_cons.1 h
    rw [evalEntries, evalWith_of_inert hev hx, evalEntries_of_inert hev hes]
    rfl

end

/-! ### The walk -/

variable (hev : ∀ s, isExpression s = false → ev s = .ok (.string s)) (key : String)

theorem computedChild_of_inert (segment : String) {es : List (String × Value)}
    (h : ∀ e ∈ es, isExpression e.1 = false) :
    computedChild ev key segment es = .error (.noValue key segment) := by
  induction es with
  | nil => rfl
  | cons e es ih =>
    obtain ⟨hname, hes⟩ := List.forall_mem_cons.1 h
    rw [computedChild, if_neg (by simp [hname])]
    exact ih hes

/-- Names without markers answer literally or not at all. -/
theorem findChild_of_inert (segment : String) {v : Value} (hv : v.Inert) :
    findChild ev key segment v =
      match v.child? segment with
      | some child => .ok child
      | none => .error (.noValue key segment) := by
  unfold findChild
  cases hchild : v.child? segment with
  | some child => rfl
  | none =>
    cases v with
    | mapping es =>
      exact computedChild_of_inert key segment fun e he => ((Value.each_mapping es).1 hv e he).1
    | _ => rfl

include hev

theorem walk_of_inert {path : Path} {v : Value} (hv : v.Inert) :
    walk ev key path v = Plain.walk key path v := by
  induction path generalizing v with
  | nil => rfl
  | cons segment path ih =>
    cases path with
    | nil =>
      rw [walk, findChild_of_inert key segment hv, Plain.walk]
      cases v.child? segment <;> rfl
    | cons next path =>
      rw [walk_cons_cons, findChild_of_inert key segment hv, Plain.walk]
      cases hchild : v.child? segment with
      | none => rfl
      | some child =>
        have hinert : child.Inert := hv.child? hchild
        cases child with
        | string s =>
          -- trimmed or not, a string has no children to go on to
          have htrim := isExpression_trim ((Value.each_string s).1 hinert)
          show (ev (Text.trim s) >>= walk ev key (next :: path)) = _
          rw [hev _ htrim]
          exact ih ((Value.each_string _).2 htrim)
        | _ => exact ih hinert

end Inert

/-! ### Reads -/

theorem inert_of_walk {key : String} {path : Path} {v w : Value} (hv : v.Inert)
    (h : Plain.walk key path v = .ok w) : w.Inert := by
  induction path generalizing v with
  | nil =>
    cases h
    exact hv
  | cons segment path ih =>
    unfold Plain.walk at h
    split at h
    · next child hchild => exact ih (hv.child? hchild) h
    · cases h

variable {tree : Value} (htree : tree.Inert) (key : String)

include htree

theorem readRaw_of_inert : readRaw tree key = Plain.read tree key :=
  walk_of_inert (evalString_of_inert tree) key htree

theorem read_of_inert : read tree key = (Plain.read tree key).map Value.trimmed := by
  have hraw : walk (evalString tree) key (Path.ofKey key) tree = Plain.read tree key :=
    readRaw_of_inert htree key
  rw [read, readWith, hraw]
  cases h : Plain.read tree key with
  | error fault => rfl
  | ok v => exact evalWith_of_inert (evalString_of_inert tree) (inert_of_walk htree h)

end Live

end PathBag
