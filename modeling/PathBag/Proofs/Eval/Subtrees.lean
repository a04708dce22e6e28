import PathBag.Proofs.Bag.Operations
import PathBag.Proofs.Eval.Depth
import PathBag.Proofs.Eval.Inert
import PathBag.Proofs.Tree.Keys

/-!
# Reading a subtree and reading inside it

Reading a key and taking a child of its value, or reading the key of the child: the two agree when a
composite is stored at the key.  When a string is stored there, the second read goes on from its
value, which is already evaluated, and evaluates the child once more (`Bag.read_child`).
-/

namespace PathBag

namespace Live

open Value

/-! ### Children of evaluated values -/

section Child

variable {ev : String → Except Fault Value}

theorem find?_of_evalEntries {es es' : Entries Value} (h : evalEntries ev es = .ok es')
    {name : String} {w : Value} (hw : Entries.find? name es' = some w) :
    ∃ child, Entries.find? name es = some child ∧ evalWith ev child = .ok w := by
  induction es generalizing es' with
  | nil =>
    cases h
    cases hw
  | cons e es ih =>
    obtain ⟨n, x⟩ := e
    obtain ⟨v, hx, h⟩ := exists_of_bind_eq_ok h
    obtain ⟨rest, hes, h⟩ := exists_of_bind_eq_ok h
    cases h
    rw [Entries.find?] at hw ⊢
    split
    · next hn =>
      rw [if_pos hn] at hw
      cases hw
      exact ⟨x, rfl, hx⟩
    · next hn =>
      rw [if_neg hn] at hw
      exact ih hes hw

theorem length_of_evalItems {xs xs' : List Value} (h : evalItems ev xs = .ok xs') :
    xs'.length = xs.length := by
  induction xs generalizing xs' with
  | nil =>
    cases h
    rfl
  | cons x xs ih =>
    obtain ⟨v, -, h⟩ := exists_of_bind_eq_ok h
    obtain ⟨rest, hxs, h⟩ := exists_of_bind_eq_ok h
    cases h
    exact congrArg (· + 1) (ih hxs)

theorem getElem?_of_evalItems {xs xs' : List Value} (h : evalItems ev xs = .ok xs') {i : Nat}
    {w : Value} (hw : xs'[i]? = some w) :
    ∃ child, xs[i]? = some child ∧ evalWith ev child = .ok w := by
  induction xs generalizing xs' i with
  | nil =>
    cases h
    cases hw
  | cons x xs ih =>
    obtain ⟨v, hx, h⟩ := exists_of_bind_eq_ok h
    obtain ⟨rest, hxs, h⟩ := exists_of_bind_eq_ok h
    cases h
    cases i with
    | zero =>
      cases hw
      exact ⟨x, rfl, hx⟩
    | succ i => exact ih hxs hw

/-- A child of an evaluated composite is the evaluated child. -/
theorem child?_of_evalWith {raw v : Value} (hraw : raw.kind ≠ .string)
    (h : evalWith ev raw = .ok v) {segment : String} {w : Value}
    (hw : v.child? segment = some w) :
    ∃ child, raw.child? segment = some child ∧ evalWith ev child = .ok w := by
  cases raw with
  | string s => exact absurd rfl hraw
  | mapping es =>
    obtain ⟨es', hes, rfl⟩ := exists_of_map_eq_ok h
    exact find?_of_evalEntries hes hw
  | sequence xs =>
    obtain ⟨xs', hxs, rfl⟩ := exists_of_map_eq_ok h
    obtain ⟨i, hi, hget⟩ := Option.bind_eq_some_iff.1 hw
    obtain ⟨child, hchild, hval⟩ := getElem?_of_evalItems hxs hget
    rw [length_of_evalItems hxs] at hi
    exact ⟨child, Option.bind_eq_some_iff.2 ⟨i, hi, hchild⟩, hval⟩
  | _ =>
    cases h
    cases hw

end Child

/-! ### Keys of children -/

/-- A key reads as the value of what is stored there. -/
theorem read_eq_bind (tree : Value) (key : String) :
    read tree key = readRaw tree key >>= eval tree := rfl

section Dot

variable {tree raw : Value} {key segment : String} (hne : key ≠ "") (hkey : '[' ∉ key.toList)
  (hdot : '.' ∉ segment.toList) (hsegment : '[' ∉ segment.toList)
  (hraw : readRaw tree key = .ok raw)

include hne hkey hdot hsegment hraw

/-- Reading the key of a child goes on from the node at the key above it, entered. -/
theorem read_dot :
    read tree (key ++ "." ++ segment) =
      enter (evalString tree) raw >>= fun node =>
        findChild (evalString tree) (key ++ "." ++ segment) segment node >>= eval tree := by
  have hwalk : walk (evalString tree) (key ++ "." ++ segment) (Path.ofKey key) tree = .ok raw :=
    walk_of_ok hraw _
  rw [read, readWith, Path.ofKey_dot hne hkey hdot hsegment,
    walk_concat _ _ (Path.ofKey_ne_nil hne hkey), hwalk]
  exact bind_assoc (enter (evalString tree) raw) _ _

/-- Below a stored composite, the child of the value is the value of the child. -/
theorem read_dot_of_ne_string (hkind : raw.kind ≠ .string) {v w : Value}
    (hv : eval tree raw = .ok v) (hw : v.child? segment = some w) :
    read tree (key ++ "." ++ segment) = .ok w := by
  obtain ⟨child, hchild, hval⟩ := child?_of_evalWith hkind hv hw
  rw [read_dot hne hkey hdot hsegment hraw, enter_of_ne_string hkind, ok_bind,
    findChild_of_child? _ _ hchild, ok_bind]
  exact hval

/-- Below a stored string, the child of the value is evaluated once more. -/
theorem read_dot_of_string (hkind : raw.kind = .string) {v w : Value}
    (hv : eval tree raw = .ok v) (hw : v.child? segment = some w) :
    read tree (key ++ "." ++ segment) = eval tree w := by
  have henter : enter (evalString tree) raw = .ok v := by
    cases raw with
    | string s => exact hv
    | _ => cases hkind
  rw [read_dot hne hkey hdot hsegment hraw, henter, ok_bind, findChild_of_child? _ _ hw, ok_bind]

end Dot

end Live

/-- **Reading a subtree and reading inside it.**  Let a key of a live bag have a value, and this
value a child.  If what is stored at the key is no string, the key of the child reads as this child.
If it is a string, the key of the child reads as what evaluating the child gives, which is again
this child when it is trimmed and holds no marker. -/
theorem Bag.read_child (tree : Value) {key segment : String} (hne : key ≠ "")
    (hkey : '[' ∉ key.toList) (hdot : '.' ∉ segment.toList) (hsegment : '[' ∉ segment.toList)
    {v w : Value} (hread : (⟨.live, tree⟩ : Bag).read key = .ok v)
    (hchild : v.child? segment = some w) :
    ∃ raw, (⟨.live, tree⟩ : Bag).readRaw key = .ok raw ∧
      (raw.kind ≠ .string → (⟨.live, tree⟩ : Bag).read (key ++ "." ++ segment) = .ok w) ∧
      (raw.kind = .string →
        (⟨.live, tree⟩ : Bag).read (key ++ "." ++ segment) = Live.eval tree w ∧
        (w.Inert → w.trimmed = w →
          (⟨.live, tree⟩ : Bag).read (key ++ "." ++ segment) = .ok w)) := by
  obtain ⟨raw, hraw, hv⟩ := exists_of_bind_eq_ok ((Live.read_eq_bind tree key).symm.trans hread)
  refine ⟨raw, hraw, fun hkind => ?_, fun hkind => ?_⟩
  · exact Live.read_dot_of_ne_string hne hkey hdot hsegment hraw hkind hv hchild
  · have hagain : (⟨.live, tree⟩ : Bag).read (key ++ "." ++ segment) = Live.eval tree w :=
      Live.read_dot_of_string hne hkey hdot hsegment hraw hkind hv hchild
    refine ⟨hagain, fun hinert htrim => ?_⟩
    have heval : Live.eval tree w = .ok w.trimmed :=
      Live.evalWith_of_inert (Live.evalString_of_inert tree) hinert
    rw [hagain, heval, htrim]

/-- Through a reference to a mapping, the key of a reference in the mapping reads as the number that
both lead to. -/
theorem Bag.read_child_alias :
    (⟨.live, .mapping [("a", .mapping [("x", .string "$\x7bc\x7d")]), ("b", .string "$\x7ba\x7d"),
      ("c", .int 7)]⟩ : Bag).read "b" = .ok (.mapping [("x", .int 7)]) ∧
    (⟨.live, .mapping [("a", .mapping [("x", .string "$\x7bc\x7d")]), ("b", .string "$\x7ba\x7d"),
      ("c", .int 7)]⟩ : Bag).read "b.x" = .ok (.int 7) := by
  have hread : (⟨.live, .mapping [("a", .mapping [("x", .string "$\x7bc\x7d")]),
      ("b", .string "$\x7ba\x7d"), ("c", .int 7)]⟩ : Bag).read "b" =
      .ok (.mapping [("x", .int 7)]) := rfl
  obtain ⟨raw, hraw, -, hstring⟩ := Bag.read_child _ (by decide) (by decide)
    (by decide : '.' ∉ "x".toList) (by decide) hread rfl
  cases hraw
  exact ⟨hread, (hstring rfl).2 (by decide) rfl⟩

/-- A tree in which a placeholder makes a text that looks like a reference. -/
def Value.lookalike : Value :=
  mapping [("a", mapping [("x", string "\x7b\x7b d \x7d\x7d\x7bc\x7d")]), ("b", string "$\x7ba\x7d"),
    ("c", int 7), ("d", string "$")]

/-- In the value of a reference, a text that looks like a reference is a text.  Under its own key it
is read as the reference that it looks like. -/
theorem Bag.read_child_again :
    ∃ (tree v w : Value) (key segment : String), key ≠ "" ∧ '[' ∉ key.toList ∧
      '.' ∉ segment.toList ∧ '[' ∉ segment.toList ∧ ']' ∉ segment.toList ∧
      (⟨.live, tree⟩ : Bag).read key = .ok v ∧ v.child? segment = some w ∧
      (⟨.live, tree⟩ : Bag).read (key ++ "." ++ segment) ≠ .ok w := by
  have htext : Live.evalText Value.lookalike 63 "\x7b\x7b d \x7d\x7d\x7bc\x7d" =
      .ok (.string "$\x7bc\x7d") := by
    rw [Live.evalText_succ, Marker.eval, Marker.evalReferences_of_not_occursIn _ (by decide)]
    rfl
  have htarget : Live.reader Value.lookalike 63 "a" =
      .ok (.mapping [("x", .string "$\x7bc\x7d")]) := by
    have hraw : Live.rawReader Value.lookalike 63 "a" =
        .ok (.mapping [("x", .string "\x7b\x7b d \x7d\x7d\x7bc\x7d")]) := rfl
    have htrim : Text.trim "\x7b\x7b d \x7d\x7d\x7bc\x7d" = "\x7b\x7b d \x7d\x7d\x7bc\x7d" := by
      decide
    rw [Live.reader_eq_bind, hraw, ok_bind, Live.evalWith, Live.evalEntries, Live.evalWith, htrim,
      htext]
    rfl
  have hvalue : Live.eval Value.lookalike (.string "$\x7ba\x7d") =
      .ok (.mapping [("x", .string "$\x7bc\x7d")]) := by
    show Live.evalText Value.lookalike 64 (Marker.referenceText ['a']) = _
    rw [Live.evalText_referenceText (by decide) (List.forall_mem_singleton.2 rfl)]
    exact Lookup.getAs_of_ok htarget _ .any
  have hread : Live.read Value.lookalike "b" = .ok (.mapping [("x", .string "$\x7bc\x7d")]) := by
    have hraw : Live.readRaw Value.lookalike "b" = .ok (.string "$\x7ba\x7d") := rfl
    rw [Live.read_eq_bind, hraw, ok_bind, hvalue]
  have hagain : Live.read Value.lookalike ("b" ++ "." ++ "x") =
      Live.eval Value.lookalike (.string "$\x7bc\x7d") :=
    Live.read_dot_of_string (by decide) (by decide) (by decide) (by decide) rfl rfl hvalue rfl
  have hseven : Live.eval Value.lookalike (.string "$\x7bc\x7d") = .ok (.int 7) := rfl
  refine ⟨Value.lookalike, _, _, "b", "x", by decide, by decide, by decide, by decide, by decide,
    hread, rfl, fun hsame => ?_⟩
  have hboth : (.ok (.int 7) : Except Fault Value) = .ok (.string "$\x7bc\x7d") :=
    hseven.symm.trans (hagain.symm.trans hsame)
  cases hboth

end PathBag
