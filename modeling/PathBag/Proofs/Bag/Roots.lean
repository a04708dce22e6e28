import PathBag.Proofs.Bag.Construction

/-!
# The roots of bags

A write that goes down at least one segment leaves a composite at the root, whatever stood there
before, and so does a composite that is laid over the root itself.  Only a scalar under the empty key
takes the place of the root.  When a bag is made from entries, the last one therefore decides
(`isComposite_of_add`).
-/

namespace PathBag

open Value

namespace Path

theorem ofKey_eq_nil_iff {key : String} : ofKey key = [] ↔ key = "" := by
  constructor
  · intro h
    refine Decidable.byContradiction fun hne => ?_
    by_cases hbracket : '[' ∈ key.toList
    · rw [ofKey_of_bracketed hbracket] at h
      exact splitAt_ne_nil _ _ (List.map_eq_nil_iff.1 h)
    · exact ofKey_ne_nil hne hbracket h
  · rintro rfl
    rfl

end Path

namespace Value

theorem isComposite_alterChild (v : Value) (segment : String) (fill : Value)
    (f : Value → Value) : (v.alterChild segment fill f).isComposite = true := by
  cases v with
  | sequence xs =>
    unfold alterChild
    dsimp only
    split <;> rfl
  | _ => rfl

/-- Below a segment any edit makes a composite of the root. -/
theorem isComposite_alter {path : Path} (h : path ≠ []) (f : Value → Value) (v : Value) :
    (v.alter path f).isComposite = true := by
  cases path with
  | nil => exact absurd rfl h
  | cons segment path => exact isComposite_alterChild ..

theorem isComposite_merge {v : Value} (h : v.isComposite = true) (base : Value) :
    (base.merge v).isComposite = true := by
  cases v with
  | mapping es =>
    unfold merge
    split <;> rfl
  | sequence xs =>
    unfold merge
    split <;> rfl
  | _ => cases h

/-- What is laid over the root or put below it makes a composite of the root unless it is a scalar
for the root itself. -/
theorem isComposite_alter_write {path : Path} {v : Value} (h : path ≠ [] ∨ v.isComposite = true)
    (merging : Bool) (t : Value) :
    (t.alter path fun slot => if merging then slot.merge v else v).isComposite = true := by
  rcases h with hpath | hv
  · exact isComposite_alter hpath _ t
  · cases path with
    | nil =>
      cases merging with
      | true => exact isComposite_merge hv t
      | false => exact hv
    | cons segment path => exact isComposite_alterChild ..

end Value

namespace Live

theorem isComposite_of_writeLeaf {path : Path} {merging : Bool} {v t t' : Value}
    (h : writeLeaf path merging v t = .done t') (hv : path ≠ [] ∨ v.isComposite = true) :
    t'.isComposite = true := by
  obtain ⟨cleared, -, hdone⟩ := Edited.of_andThen_eq_done h
  cases hdone
  exact isComposite_alter_write hv merging cleared

mutual

theorem isComposite_of_write {merging : Bool} : ∀ {v : Value} {path : Path} {t t' : Value},
    write path merging v t = .done t' → path ≠ [] ∨ v.isComposite = true → t'.isComposite = true
  | .mapping (e :: es), _, _, _, h, _ =>
    isComposite_of_writeEntries h (.inl (List.cons_ne_nil e es))
  | .mapping [], _, _, _, h, hv | .null, _, _, _, h, hv | .bool _, _, _, _, h, hv
  | .int _, _, _, _, h, hv | .float _, _, _, _, h, hv | .string _, _, _, _, h, hv
  | .sequence _, _, _, _, h, hv => isComposite_of_writeLeaf h hv

/-- Each entry goes below its name. -/
theorem isComposite_of_writeEntries : ∀ {es : List (String × Value)} {path : Path} {t t' : Value},
    writeEntries path es t = .done t' → es ≠ [] ∨ t.isComposite = true → t'.isComposite = true
  | [], _, _, _, h, ht => by
    rcases ht with hes | ht
    · exact absurd rfl hes
    · cases h
      exact ht
  | (name, v) :: es, path, t, t', h, _ => by
    obtain ⟨after, hwrite, hrest⟩ := Edited.of_andThen_eq_done h
    have hpath : path ++ [name] ≠ [] := List.concat_ne_nil name path
    have hafter : after.isComposite = true := isComposite_of_write hwrite (.inl hpath)
    exact isComposite_of_writeEntries hrest (.inr hafter)

end

/-- A scalar in the place of the root. -/
theorem write_root {v : Value} (hv : v.isComposite = false) (t : Value) :
    write [] true v t = .done v := by
  cases v with
  | sequence xs => cases hv
  | mapping es => cases hv
  | _ => rfl

end Live

/-! ### The root of a bag that is made -/

/-- The scalar that the last of some entries puts in the place of the root, if it does. -/
def rootScalar? (es : List (String × Value)) : Option Value :=
  match es.getLast? with
  | some (key, v) => if key = "" ∧ v.isComposite = false then some v else none
  | none => none

theorem rootScalar?_cons_cons (e e' : String × Value) (es : List (String × Value)) :
    rootScalar? (e :: e' :: es) = rootScalar? (e' :: es) := by
  rw [rootScalar?, rootScalar?, List.getLast?_cons_cons]

theorem isComposite_of_rootScalar? {es : List (String × Value)} {w : Value}
    (h : rootScalar? es = some w) : w.isComposite = false := by
  unfold rootScalar? at h
  split at h
  · split at h
    · next hscalar =>
      cases h
      exact hscalar.2
    · cases h
  · cases h

/-- The tree is the scalar, or a composite if there is no scalar. -/
def Value.IsRoot (t : Value) : Option Value → Prop
  | some w => t = w
  | none => t.isComposite = true

namespace Bag

variable {mode : Mode} {t : Value} {b : Bag}

/-- One entry decides what the root is, whatever it was. -/
theorem isRoot_of_merge {key : String} {v : Value} (h : (⟨mode, t⟩ : Bag).merge key v = .done b) :
    b.mode = mode ∧ b.tree.IsRoot (rootScalar? [(key, v)]) := by
  have hroot : rootScalar? [(key, v)] =
      if key = "" ∧ v.isComposite = false then some v else none := rfl
  rw [hroot]
  by_cases hscalar : key = "" ∧ v.isComposite = false
  · obtain ⟨rfl, hv⟩ := hscalar
    rw [if_pos ⟨rfl, hv⟩]
    cases mode with
    | plain =>
      cases h
      exact ⟨rfl, merge_of_scalar hv t⟩
    | live =>
      obtain ⟨t', hwrite, rfl⟩ := Edited.of_map_eq_done h
      have hdone : Edited.done t' = .done v := hwrite.symm.trans (Live.write_root hv t)
      cases hdone
      exact ⟨rfl, rfl⟩
  · rw [if_neg hscalar]
    have hdown : Path.ofKey key ≠ [] ∨ v.isComposite = true := by
      rw [ne_eq, Path.ofKey_eq_nil_iff, ← Bool.not_eq_false]
      exact Decidable.not_and_iff_or_not.1 hscalar
    cases mode with
    | plain =>
      cases h
      exact ⟨rfl, isComposite_alter_write hdown true t⟩
    | live =>
      obtain ⟨t', hwrite, rfl⟩ := Edited.of_map_eq_done h
      exact ⟨rfl, Live.isComposite_of_write hwrite hdown⟩

/-- So the last entry decides. -/
theorem isRoot_of_add {es : List (String × Value)} (h : (⟨mode, t⟩ : Bag).add es = .done b)
    (ht : es = [] → t.isComposite = true) : b.tree.IsRoot (rootScalar? es) := by
  induction es generalizing t with
  | nil =>
    cases h
    exact ht rfl
  | cons e es ih =>
    obtain ⟨key, v⟩ := e
    obtain ⟨⟨mode', t'⟩, hmerge, hadd⟩ := Edited.of_andThen_eq_done h
    obtain ⟨rfl, hroot⟩ := isRoot_of_merge hmerge
    cases es with
    | nil =>
      cases hadd
      exact hroot
    | cons e' es =>
      rw [rootScalar?_cons_cons]
      exact ih hadd fun hes => absurd hes (List.cons_ne_nil e' es)

theorem isRoot_of_ofValue {v : Value} (h : ofValue mode v = .ok b) :
    b.tree.IsRoot (rootScalar? (v.entries?.getD [])) := by
  cases v with
  | mapping es =>
    have hadd : (⟨mode, .empty⟩ : Bag).add es = .done b := Edited.of_toExcept_eq_ok h
    exact isRoot_of_add hadd fun _ => rfl
  | _ =>
    cases h
    rfl

/-- **What the root of a bag is.**  From every value a plain bag is made.  A bag that is made, plain
or live, has a composite at its root unless it is made from a mapping whose last entry holds a scalar
under the empty name; the root is then this scalar, and of the other entries nothing is left. -/
theorem isComposite_ofValue (v : Value) :
    (∃ t, ofValue .plain v = .ok ⟨.plain, t⟩) ∧
    ∀ mode b, ofValue mode v = .ok b →
      (b.tree.isComposite = true ↔ rootScalar? (v.entries?.getD []) = none) ∧
      ∀ w, rootScalar? (v.entries?.getD []) = some w → b.tree = w := by
  constructor
  · cases v with
    | mapping es => exact ⟨_, ofEntries_plain es⟩
    | _ => exact ⟨_, rfl⟩
  · intro mode b hmade
    have hroot := isRoot_of_ofValue hmade
    cases hscalar : rootScalar? (v.entries?.getD []) with
    | none =>
      rw [hscalar] at hroot
      exact ⟨iff_of_true hroot rfl, fun w hw => nomatch hw⟩
    | some w =>
      rw [hscalar] at hroot
      obtain rfl : b.tree = w := hroot
      have hfalse := isComposite_of_rootScalar? hscalar
      refine ⟨iff_of_false (by simp [hfalse]) (by simp), fun w hw => ?_⟩
      exact Option.some.inj hw

/-- A scalar at the root gives way to the entry after it. -/
theorem isComposite_ofValue_before :
    ∃ b, ofValue .live (.mapping [("", .int 5), ("a", .null)]) = .ok b ∧
      b.tree.isComposite = true := by
  have hmade : ofValue .live (.mapping [("", .int 5), ("a", .null)]) =
      .ok ⟨.live, .mapping [("a", .null)]⟩ := rfl
  exact ⟨_, hmade, ((isComposite_ofValue _).2 _ _ hmade).1.2 rfl⟩

/-- Behind the other entries it takes the place of them all, also from a JSON document. -/
theorem isComposite_ofValue_behind :
    ofValue .plain (.mapping [("a", .int 1), ("", .int 5)]) = .ok ⟨.plain, .int 5⟩ ∧
      ofValue .live (.mapping [("a", .int 1), ("", .int 5)]) = .ok ⟨.live, .int 5⟩ ∧
      (Value.int 5).isComposite = false ∧
      ((ofJson .plain "\x7b\"a\": 1, \"\": 5\x7d").map (·.tree.isComposite)).toOption =
        some false := by
  refine ⟨rfl, rfl, rfl, ?_⟩
  decide +kernel

end Bag

end PathBag
