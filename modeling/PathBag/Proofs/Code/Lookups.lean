import PathBag.Code.Eval
import PathBag.Proofs.Bag.Construction
import PathBag.Proofs.Bag.Operations
import PathBag.Proofs.Text.Classes
import PathBag.Proofs.Tree.Notation

/-!
# Paths that code looks up

A path in code may have any text for a segment, but it is looked up by a key, and a key cannot carry
every path.  The key is bracketed if some segment holds a dot, and dotted otherwise: so an opening
bracket always spoils it, and a closing one only beside a dot (`Path.Spellable`).  A path that is
not carried is looked up somewhere else, and there are data that show it (`Code.eval_path_iff`).
-/

namespace PathBag

/-! ### The key of a path -/

namespace Path

/-- No segment holds an opening bracket, and if some segment holds a dot, none holds a closing
bracket. -/
def Spellable (path : Path) : Prop :=
  (∀ s ∈ path, '[' ∉ s.toList) ∧ ¬ ((∃ s ∈ path, '.' ∈ s.toList) ∧ ∃ s ∈ path, ']' ∈ s.toList)

instance (path : Path) : Decidable path.Spellable := inferInstanceAs (Decidable (_ ∧ _))

theorem ofKey_of_isWord {s : String} (h : Text.isWord s.toList = true) : ofKey s = [s] := by
  refine ofKey_of_plain ?_ ?_ ?_
  · rintro rfl
    cases h
  · exact Text.notMem_of_isWord h (by decide)
  · exact Text.notMem_of_isWord h (by decide)

/-- The paths that the key of code leads back to. -/
theorem ofKey_toKey_iff {first : String} (hfirst : Text.isWord first.toList = true) (rest : Path) :
    ofKey (toKey (first :: rest)) = first :: rest ↔ Spellable (first :: rest) := by
  by_cases hdot : ∃ s ∈ first :: rest, '.' ∈ s.toList
  · -- the dot is not in the word, so there is one more segment
    have hlength : 2 ≤ (first :: rest).length := by
      obtain ⟨s, hs, hdot⟩ := hdot
      rcases List.mem_cons.1 hs with rfl | hs
      · exact absurd hdot (Text.notMem_of_isWord hfirst (by decide))
      · have := List.length_pos_of_mem hs
        rw [List.length_cons]
        omega
    rw [toKey_of_dot hdot, ofKey_bracketed_iff hlength]
    constructor
    · intro h
      refine ⟨fun s hs => (h s hs).1, ?_⟩
      rintro ⟨-, s, hs, hclose⟩
      exact (h s hs).2 hclose
    · rintro ⟨hopen, hboth⟩ s hs
      exact ⟨hopen s hs, fun hclose => hboth ⟨hdot, s, hs, hclose⟩⟩
  · have hnone : ∀ s ∈ first :: rest, '.' ∉ s.toList := fun s hs h => hdot ⟨s, hs, h⟩
    have hroot : first :: rest ≠ [""] := by
      rintro h
      obtain ⟨rfl, -⟩ := List.cons.inj h
      cases hfirst
    rw [toKey_of_no_dot hnone, ofKey_dotted_iff]
    constructor
    · rintro (hnil | ⟨-, h⟩)
      · cases hnil
      · exact ⟨fun s hs => (h s hs).2, fun hboth => hdot hboth.1⟩
    · rintro ⟨hopen, -⟩
      exact .inr ⟨hroot, fun s hs => ⟨hnone s hs, hopen s hs⟩⟩

end Path

/-! ### Data with one leaf -/

namespace Value

/-- The tree with `v` at a path and nothing beside it. -/
def along : Path → Value → Value
  | [], v => v
  | s :: path, v => mapping [(s, along path v)]

/-- A scalar stands at its own path only. -/
theorem node?_along_iff {v : Value} (hv : v.isComposite = false) {p q : Path} :
    (along p v).node? q = some v ↔ q = p := by
  induction p generalizing q with
  | nil =>
    cases q with
    | nil => simp [along]
    | cons s q =>
      have hchild : v.child? s = none := by
        cases v with
        | sequence | mapping => cases hv
        | _ => rfl
      simp [along, node?_cons, hchild]
  | cons s p ih =>
    cases q with
    | nil =>
      have hne : along (s :: p) v ≠ v := by
        rintro h
        rw [← h] at hv
        cases hv
      simp [hne]
    | cons t q =>
      by_cases hs : s = t
      · subst hs
        simp [along, node?_cons, child?, Entries.find?, ih]
      · simp [along, node?_cons, child?, Entries.find?, hs, Ne.symm hs]

/-- A bag can be made of it if its first segment is a key of its own. -/
theorem ofValue_along {s : String} (hs : Path.ofKey s = [s]) (path : Path) (v : Value) :
    Bag.ofValue .plain (along (s :: path) v) = .ok ⟨.plain, along (s :: path) v⟩ := by
  have hadd : Plain.addEntries [(s, along path v)] empty = along (s :: path) v := by
    rw [Plain.addEntries, hs]
    exact congrArg (fun w => mapping [(s, w)]) (empty_merge _)
  rw [along, Bag.ofValue, Bag.ofEntries_plain, hadd]
  rfl

end Value

/-! ### Looking up -/

namespace Code

theorem eval_path_plain (segments : Path) (tree : Value) :
    (Expr.path segments).eval (⟨.plain, tree⟩ : Bag).read =
      .ok ((tree.node? (Path.ofKey segments.toKey)).getD .null) :=
  Plain.get_read tree segments.toKey .null

/-- **The paths that code can look up.**  Take a path that starts with a word.  Its key leads back to
it exactly if no segment holds an opening bracket and the segments do not hold both a dot and a
closing bracket.  If this is so, code reads every plain bag at this path, and null where nothing is.
If not, there is a bag in which a node stands at the path and code does not find it. -/
theorem eval_path_iff {first : String} (hfirst : Text.isWord first.toList = true) (rest : Path) :
    (Path.ofKey (Path.toKey (first :: rest)) = first :: rest ↔ Path.Spellable (first :: rest)) ∧
    (Path.Spellable (first :: rest) → ∀ tree : Value,
      (Expr.path (first :: rest)).eval (⟨.plain, tree⟩ : Bag).read =
        .ok ((tree.node? (first :: rest)).getD .null)) ∧
    (¬ Path.Spellable (first :: rest) → ∃ (v : Value) (b : Bag),
      Bag.ofValue .plain v = .ok b ∧ b.tree.node? (first :: rest) = some (.bool true) ∧
        (Expr.path (first :: rest)).eval b.read ≠ .ok (.bool true)) := by
  have hkey := Path.ofKey_toKey_iff hfirst rest
  refine ⟨hkey, ?_, ?_⟩
  · intro hspellable tree
    rw [eval_path_plain, hkey.2 hspellable]
  · intro hspellable
    have hname : Path.ofKey first = [first] := Path.ofKey_of_isWord hfirst
    have hself : (Value.along (first :: rest) (.bool true)).node? (first :: rest) =
        some (.bool true) := (Value.node?_along_iff rfl).2 rfl
    refine ⟨_, _, Value.ofValue_along hname rest (.bool true), hself, fun heval => ?_⟩
    rw [eval_path_plain] at heval
    rcases Option.getD_eq_iff.1 (Except.ok.inj heval) with hfound | ⟨-, hnull⟩
    · -- what code finds is `true`, which stands at one path only
      exact hspellable (hkey.1 ((Value.node?_along_iff rfl).1 hfound))
    · cases hnull

/-- A dot in a segment does no harm by itself, but it does beside a closing bracket. -/
theorem eval_path_iff_quoted :
    Text.isWord "a".toList = true ∧
    (Path.Spellable ["a", "b.c", "0"] ∧
      (Expr.path ["a", "b.c", "0"]).eval
        (⟨.plain, .mapping [("a", .mapping [("b.c", .sequence [.int 7])])]⟩ : Bag).read =
          .ok (.int 7)) ∧
    (¬ Path.Spellable ["a", "b.c", "d]"] ∧ ∃ (v : Value) (b : Bag),
      Bag.ofValue .plain v = .ok b ∧ b.tree.node? ["a", "b.c", "d]"] = some (.bool true) ∧
        (Expr.path ["a", "b.c", "d]"]).eval b.read ≠ .ok (.bool true)) := by
  have hfirst : Text.isWord "a".toList = true := by decide
  have hdot : Path.Spellable ["a", "b.c", "0"] := by decide
  have hboth : ¬ Path.Spellable ["a", "b.c", "d]"] := by decide
  refine ⟨hfirst, ⟨hdot, ?_⟩, hboth, ?_⟩
  · exact (eval_path_iff hfirst ["b.c", "0"]).2.1 hdot _
  · exact (eval_path_iff hfirst ["b.c", "d]"]).2.2 hboth

end Code

end PathBag
