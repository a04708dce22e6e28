import PathBag.Proofs.Tree.Names

/-!
# Writing at a path

What an edit at a path leaves at every other path.  Below the path stands what the edit made of the
slot, beside it everything stands as before, and above it a node keeps the names of its children
and may get the next segment as a new last one (`node?_alter`).

Edits compose: an edit at a path is an edit of an edit (`alter_append`), and two edits at one path
are one (`alter_alter`).
-/

namespace PathBag

namespace Path

/-- Neither path leads on from the other. -/
def Diverges (p q : Path) : Prop := ¬ p <+: q ∧ ¬ q <+: p

instance (p q : Path) : Decidable (p.Diverges q) := inferInstanceAs (Decidable (_ ∧ _))

theorem diverges_cons_cons {s s' : String} {p q : Path} :
    Diverges (s :: p) (s' :: q) ↔ s ≠ s' ∨ Diverges p q := by
  by_cases h : s = s'
  · subst h
    simp [Diverges, List.cons_prefix_cons]
  · simp [Diverges, List.cons_prefix_cons, h, Ne.symm h]

theorem not_diverges_nil_left (q : Path) : ¬ Diverges [] q := fun h => h.1 List.nil_prefix

theorem not_diverges_nil_right (p : Path) : ¬ Diverges p [] := fun h => h.2 List.nil_prefix

end Path

namespace Value

/-! ### Paths one after the other -/

theorem node?_append (p q : Path) (v : Value) : v.node? (p ++ q) = (v.node? p).bind (node? q) := by
  induction p generalizing v with
  | nil => rfl
  | cons s p ih =>
    rw [List.cons_append, node?_cons, node?_cons, Option.bind_assoc]
    exact congrArg _ (funext ih)

theorem node?_concat (p : Path) (s : String) (v : Value) :
    v.node? (p ++ [s]) = (v.node? p).bind (child? s) := by
  rw [node?_append]
  exact congrArg _ (funext fun w => Option.bind_fun_some (w.child? s))

theorem alter_append (p q : Path) (f : Value → Value) (v : Value) :
    v.alter (p ++ q) f = v.alter p (alter q f) := by
  induction p generalizing v with
  | nil => rfl
  | cons s p ih =>
    rw [List.cons_append, alter_cons, alter_cons]
    exact congrArg _ (funext ih)

theorem alter_alter (p : Path) (f g : Value → Value) (v : Value) :
    (v.alter p g).alter p f = v.alter p (f ∘ g) := by
  induction p generalizing v with
  | nil => rfl
  | cons s p ih =>
    rw [alter_cons, alter_cons, alter_cons, alterChild_alterChild]
    exact congrArg _ (funext ih)

/-! ### The node that is written -/

@[simp] theorem node?_empty_cons (s : String) (p : Path) : empty.node? (s :: p) = none := rfl

/-- A missing child counts as an empty mapping, and so does what is missing below it. -/
theorem slot_cons (s : String) (p : Path) (v : Value) :
    (((v.child? s).getD empty).node? p).getD empty = (v.node? (s :: p)).getD empty := by
  rw [node?_cons]
  cases v.child? s with
  | some child => rfl
  | none => cases p <;> rfl

theorem node?_alter_self (p : Path) (f : Value → Value) (v : Value) :
    (v.alter p f).node? p = some (f ((v.node? p).getD empty)) := by
  induction p generalizing v with
  | nil => rfl
  | cons s p ih =>
    rw [alter_cons, node?_cons, child?_alterChild_self, Option.bind_some, ih, slot_cons]

/-- An edit is what it does to the slot. -/
theorem alter_congr {p : Path} {f g : Value → Value} {v : Value}
    (h : f ((v.node? p).getD empty) = g ((v.node? p).getD empty)) : v.alter p f = v.alter p g := by
  induction p generalizing v with
  | nil => exact h
  | cons s p ih =>
    rw [← slot_cons] at h
    rw [alter_cons, alter_cons]
    exact alterChild_congr (ih h)

/-- An edit that gives back the node that it finds changes nothing. -/
theorem alter_of_node? {p : Path} {f : Value → Value} {v node : Value}
    (h : v.node? p = some node) (hf : f node = node) : v.alter p f = v := by
  induction p generalizing v with
  | nil =>
    cases h
    exact hf
  | cons s p ih =>
    obtain ⟨child, hchild, hnode⟩ := Option.bind_eq_some_iff.1 h
    exact alterChild_of_child? hchild (ih hnode)

theorem node?_alter_append (p r : Path) (f : Value → Value) (v : Value) :
    (v.alter p f).node? (p ++ r) = (f ((v.node? p).getD empty)).node? r := by
  rw [node?_append, node?_alter_self, Option.bind_some]

/-! ### The nodes beside it and above it -/

theorem node?_alter_of_diverges {p q : Path} (h : p.Diverges q) (f : Value → Value) (v : Value) :
    (v.alter p f).node? q = v.node? q := by
  induction p generalizing q v with
  | nil => exact absurd h (Path.not_diverges_nil_left q)
  | cons s p ih =>
    cases q with
    | nil => exact absurd h (Path.not_diverges_nil_right _)
    | cons s' q =>
      rw [alter_cons, node?_cons, node?_cons]
      by_cases hs : s' = s
      · subst hs
        have hpq : Path.Diverges p q := by simpa [Path.diverges_cons_cons] using h
        rw [child?_alterChild_self, Option.bind_some, ih hpq]
        cases v.child? s' with
        | some child => rfl
        | none =>
          -- nothing stood here, and nothing stands below an empty mapping
          cases q with
          | nil => exact absurd hpq (Path.not_diverges_nil_right p)
          | cons => rfl
      · rw [child?_alterChild_of_ne _ _ _ _ hs]

theorem node?_alter_above (q : Path) (s : String) (r : Path) (f : Value → Value) (v : Value) :
    (v.alter (q ++ s :: r) f).node? q =
      some (((v.node? q).getD empty).alterChild s empty (alter r f)) := by
  rw [alter_append, node?_alter_self, alter_cons]

/-- Above an edit stands no string. -/
theorem node?_alter_above_ne_string {p q : Path} (hq : q <+: p) (hne : q ≠ p) (f : Value → Value)
    (v : Value) (text : String) : (v.alter p f).node? q ≠ some (string text) := by
  obtain ⟨r, rfl⟩ := hq
  cases r with
  | nil => exact absurd (List.append_nil q).symm hne
  | cons s r =>
    rw [node?_alter_above]
    intro h
    have hkind := kind_alterChild ((v.node? q).getD empty) s empty (alter r f)
    rw [Option.some.inj h] at hkind
    rcases hkind with hmapping | ⟨hsequence, -⟩
    · cases hmapping
    · cases hsequence

/-- The names of the children of the node at a path; a missing node has none. -/
def namesAt (path : Path) (v : Value) : List String := (v.node? path).elim [] childNames

theorem childNames_slot (q : Path) (v : Value) :
    ((v.node? q).getD empty).childNames = v.namesAt q := by
  rw [namesAt]
  cases v.node? q <;> rfl

/-- **The write law.**  After an edit at `p` a path below `p` leads into what the edit made of the
slot, a path that diverges from `p` leads to what it led to, and the node at a path above `p` is a
composite with the names it had, in order, and at most one more at the end: the next segment of
`p`.  It is a sequence only if it was one. -/
theorem node?_alter (t : Value) (p : Path) (f : Value → Value) (q : Path) :
    (p <+: q →
      (t.alter p f).node? q = (f ((t.node? p).getD empty)).node? (q.drop p.length)) ∧
    (p.Diverges q → (t.alter p f).node? q = t.node? q) ∧
    (∀ s r, p = q ++ s :: r → ∃ w, (t.alter p f).node? q = some w ∧
      (w.kind = .mapping ∨ w.kind = .sequence ∧ (t.node? q).map kind = some .sequence) ∧
      w.childNames = t.namesAt q ++ if s ∈ t.namesAt q then [] else [s]) := by
  refine ⟨?_, fun h => node?_alter_of_diverges h f t, ?_⟩
  · rintro ⟨r, rfl⟩
    rw [node?_alter_append, List.drop_left]
  · rintro s r rfl
    refine ⟨_, node?_alter_above q s r f t, ?_, ?_⟩
    · rcases kind_alterChild ((t.node? q).getD empty) s empty (alter r f) with h | ⟨h, hold⟩
      · exact .inl h
      · refine .inr ⟨h, ?_⟩
        cases hq : t.node? q with
        | none => simp [hq, empty, kind] at hold
        | some v => simpa [hq] using hold
    · rw [childNames_alterChild, childNames_slot]

/-- A sequence that is asked for a name gives way to a mapping: the items keep their places, and
the name comes last. -/
theorem node?_alter_sequence :
    ((sequence [null, int 7]).alter ["x", "y"] fun _ => bool true).node? ["x", "y"] =
      some (bool true) ∧
    ((sequence [null, int 7]).alter ["x", "y"] fun _ => bool true).node? ["1"] = some (int 7) ∧
    ∃ w, ((sequence [null, int 7]).alter ["x", "y"] fun _ => bool true).node? [] = some w ∧
      w.childNames = ["0", "1", "x"] := by
  have law := node?_alter (sequence [null, int 7]) ["x", "y"] fun _ => bool true
  refine ⟨(law ["x", "y"]).1 List.prefix_rfl, ?_, ?_⟩
  · exact (law ["1"]).2.1 (by decide)
  · obtain ⟨w, hw, -, hnames⟩ := (law []).2.2 "x" ["y"] rfl
    exact ⟨w, hw, by rw [hnames]; decide⟩

end Value

end PathBag
