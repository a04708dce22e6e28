import PathBag.Proofs.Tree.Write

/-!
# Erasing at a path

Taking out a node is an edit of its parent, if there is one (`erase_concat_of_some`,
`erase_concat_of_none`), and changes nothing where nothing stands (`erase_of_missing`).  What is
beside the path stays what it was, but for one case: when an item goes out of a sequence the items
behind it move up, and a path through the sequence may lead elsewhere (`TakesItem`,
`node?_erase_of_diverges`).
-/

namespace PathBag

/-- What diverges from a path one segment longer leads through its last branching, or diverges
from the path above. -/
theorem Path.Diverges.of_concat {above q : Path} {s : String} (h : Diverges (above ++ [s]) q) :
    above.Diverges q ∨ ∃ s' r, q = above ++ s' :: r ∧ s' ≠ s := by
  by_cases hq : above <+: q
  · obtain ⟨r, rfl⟩ := hq
    cases r with
    | nil => exact absurd ⟨[s], by simp⟩ h.2
    | cons s' r =>
      refine .inr ⟨s', r, rfl, ?_⟩
      rintro rfl
      exact h.1 ⟨r, by simp⟩
  · exact .inl ⟨hq, fun hle => h.2 (hle.trans (List.prefix_append _ _))⟩

/-- Erasing at `p` takes an item out of a sequence that `q` leads into or through. -/
def Path.TakesItem (p q : Path) (v : Value) : Prop :=
  ∃ above s xs, p = above ++ [s] ∧ above <+: q ∧ v.node? above = some (.sequence xs) ∧
    ((Value.sequence xs).child? s).isSome

theorem Path.not_takesItem_of_mapping {above : Path} {v : Value} {es : Entries Value}
    (h : v.node? above = some (.mapping es)) (s : String) (q : Path) :
    ¬ TakesItem (above ++ [s]) q v := by
  rintro ⟨above', s', xs, heq, -, hnode, -⟩
  obtain ⟨rfl, -⟩ := List.append_inj' heq rfl
  rw [h] at hnode
  cases hnode

theorem Entries.erase_of_notMem {α : Type} {name : String} {es : Entries α}
    (h : name ∉ es.names) : es.erase name = es :=
  List.filter_eq_self.2 fun _ he => decide_eq_true fun heq => h (heq ▸ List.mem_map_of_mem he)

namespace Value

open Decimal

/-! ### Erasing is an edit of the parent -/

theorem erase_cons {path : Path} (h : path ≠ []) (s : String) (v : Value) :
    v.erase (s :: path) =
      match v.child? s with
      | some _ => v.alterChild s empty (erase path)
      | none => v := by
  obtain ⟨next, path, rfl⟩ := List.exists_cons_of_ne_nil h
  rfl

theorem erase_concat_of_some {above : Path} {v parent : Value} (h : v.node? above = some parent)
    (s : String) : v.erase (above ++ [s]) = v.alter above (eraseChild s) := by
  induction above generalizing v with
  | nil => rfl
  | cons first above ih =>
    obtain ⟨child, hchild, hparent⟩ := Option.bind_eq_some_iff.1 h
    rw [List.cons_append, erase_cons (by simp), hchild, alter_cons]
    exact alterChild_congr (by simpa [hchild] using ih hparent)

theorem erase_concat_of_none {above : Path} {v : Value} (h : v.node? above = none) (s : String) :
    v.erase (above ++ [s]) = v := by
  induction above generalizing v with
  | nil => cases h
  | cons first above ih =>
    rw [List.cons_append, erase_cons (by simp)]
    cases hchild : v.child? first with
    | none => rfl
    | some child =>
      have hnone : child.node? above = none := by simpa [node?_cons, hchild] using h
      exact alterChild_of_child? hchild (ih hnone)

/-! ### The parent -/

theorem eraseChild_of_none {s : String} {v : Value} (h : v.child? s = none) :
    v.eraseChild s = v := by
  cases v with
  | mapping es => exact congrArg mapping (Entries.erase_of_notMem (Entries.find?_eq_none_iff.1 h))
  | sequence xs =>
    have hnone : position? s xs.length = none := by
      refine Option.eq_none_iff_forall_not_mem.2 fun i hi => ?_
      obtain ⟨hlt, rfl⟩ := position?_eq_some_iff.1 hi
      rw [child?_sequence_writeNat, List.getElem?_eq_none_iff] at h
      omega
    rw [eraseChild, hnone]
  | _ => rfl

theorem eraseChild_sequence_of_lt {xs : List Value} {i : Nat} (h : i < xs.length) :
    (sequence xs).eraseChild (writeNat i) = sequence (xs.eraseIdx i) := by
  rw [eraseChild, position?_writeNat, if_pos h]

section Concat

variable {above : Path} {s : String} {v : Value}

/-- Where nothing stands, there is nothing to erase. -/
theorem erase_of_missing (h : v.node? (above ++ [s]) = none) : v.erase (above ++ [s]) = v := by
  cases hparent : v.node? above with
  | none => exact erase_concat_of_none hparent s
  | some parent =>
    have hchild : parent.child? s = none := by rwa [node?_concat, hparent] at h
    rw [erase_concat_of_some hparent]
    exact alter_of_node? hparent (eraseChild_of_none hchild)

theorem node?_erase_parent {parent : Value} (h : v.node? above = some parent) :
    (v.erase (above ++ [s])).node? above = some (parent.eraseChild s) := by
  rw [erase_concat_of_some h, node?_alter_self, h]
  rfl

theorem node?_erase_beside_parent {q : Path} (h : above.Diverges q) :
    (v.erase (above ++ [s])).node? q = v.node? q := by
  cases hparent : v.node? above with
  | none => rw [erase_concat_of_none hparent]
  | some parent => rw [erase_concat_of_some hparent, node?_alter_of_diverges h]

end Concat

/-! ### Beside the path -/

theorem child?_eraseChild_of_ne {s s' : String} (hne : s' ≠ s) {v : Value}
    (hitem : v.kind = .sequence → v.child? s = none) :
    (v.eraseChild s).child? s' = v.child? s' := by
  cases v with
  | mapping es => exact Entries.find?_erase_of_ne hne es
  | sequence xs => rw [eraseChild_of_none (hitem rfl)]
  | _ => rfl

/-- Erasing keeps what is off its path, unless it takes an item out of a sequence on the way
there. -/
theorem node?_erase_of_diverges {p q : Path} (h : p.Diverges q) {v : Value}
    (hitem : ¬ p.TakesItem q v) : (v.erase p).node? q = v.node? q := by
  rcases List.eq_nil_or_concat p with rfl | ⟨above, s, rfl⟩
  · exact absurd h (Path.not_diverges_nil_left q)
  rw [List.concat_eq_append] at h hitem ⊢
  rcases h.of_concat with hbeside | ⟨s', r, rfl, hne⟩
  · exact node?_erase_beside_parent hbeside
  · -- the two paths part at the parent, and the child on the way to `q` stays
    cases hparent : v.node? above with
    | none => rw [erase_concat_of_none hparent]
    | some parent =>
      have hchild : (parent.eraseChild s).child? s' = parent.child? s' := by
        refine child?_eraseChild_of_ne hne fun hkind => ?_
        cases parent with
        | sequence xs =>
          refine Option.eq_none_iff_forall_not_mem.2 fun w hw => hitem ?_
          exact ⟨above, s, xs, rfl, List.prefix_append _ _, hparent, by simp [Option.mem_def.1 hw]⟩
        | _ => cases hkind
      rw [node?_append, node?_append, node?_erase_parent hparent, hparent, Option.bind_some,
        Option.bind_some, node?_cons, node?_cons, hchild]

end Value

end PathBag
