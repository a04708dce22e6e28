import PathBag.Proofs.Tree.Texts

/-!
# Distinct names

`v.Distinct`: no mapping in the value has two entries of one name.  A mapping keeps one entry for
each name, so every value that can come up is of this kind; as a list of entries it could be of
another.
-/

namespace PathBag

namespace Entries

variable {α : Type}

/-- Where the names are distinct, those in front do not come again. -/
theorem notMem_names_of_nodup {before es : Entries α} {e : String × α}
    (h : (names (before ++ e :: es)).Nodup) : e.1 ∉ before.names := by
  intro hmem
  rw [names_append, names_cons] at h
  exact (List.nodup_append.1 h).2.2 e.1 hmem e.1 List.mem_cons_self rfl

/-- Pairs of distinct names are entries as they are. -/
theorem ofList_of_nodup {es : List (String × α)} (h : (names es).Nodup) : ofList es = es := by
  have hfold : ∀ (es : List (String × α)) (before : Entries α), (names (before ++ es)).Nodup →
      es.foldl (fun es e => insert e.1 e.2 es) before = before ++ es := by
    intro es
    induction es with
    | nil => exact fun before _ => (List.append_nil before).symm
    | cons e es ih =>
      intro before hnames
      have hinsert : insert e.1 e.2 before = before ++ [e] :=
        upsert_of_notMem (notMem_names_of_nodup hnames) _ _
      rw [List.append_cons] at hnames
      rw [List.append_cons, ← ih _ hnames, ← hinsert]
      rfl
  exact hfold es [] h

end Entries

namespace Value

/-! ### The predicate -/

mutual

/-- No mapping in the value has two entries of one name. -/
def Distinct : Value → Prop
  | sequence xs => DistinctItems xs
  | mapping es => (Entries.names es).Nodup ∧ DistinctEntries es
  | _ => True

/-- No mapping in the items has two entries of one name. -/
def DistinctItems : List Value → Prop
  | [] => True
  | x :: xs => x.Distinct ∧ DistinctItems xs

/-- No mapping in the contents of the entries has two entries of one name. -/
def DistinctEntries : List (String × Value) → Prop
  | [] => True
  | (_, x) :: es => x.Distinct ∧ DistinctEntries es

end

mutual

/-- Whether the names are distinct can be computed. -/
def decideDistinct : (v : Value) → Decidable v.Distinct
  | sequence xs => decideDistinctItems xs
  | mapping es => @instDecidableAnd _ _ inferInstance (decideDistinctEntries es)
  | null | bool _ | int _ | float _ | string _ => .isTrue trivial

/-- Whether the names in the items are distinct can be computed. -/
def decideDistinctItems : (xs : List Value) → Decidable (DistinctItems xs)
  | [] => .isTrue trivial
  | x :: xs => @instDecidableAnd _ _ (decideDistinct x) (decideDistinctItems xs)

/-- Whether the names in the contents of the entries are distinct can be computed. -/
def decideDistinctEntries : (es : List (String × Value)) → Decidable (DistinctEntries es)
  | [] => .isTrue trivial
  | (_, x) :: es => @instDecidableAnd _ _ (decideDistinct x) (decideDistinctEntries es)

end

instance (v : Value) : Decidable v.Distinct := decideDistinct v

@[simp] theorem distinct_sequence (xs : List Value) :
    (sequence xs).Distinct ↔ ∀ x ∈ xs, x.Distinct := by
  rw [Distinct]
  induction xs with
  | nil => simp [DistinctItems]
  | cons x xs ih => simp [DistinctItems, ih]

theorem distinctEntries_iff {es : Entries Value} :
    DistinctEntries es ↔ ∀ e ∈ es, e.2.Distinct := by
  induction es with
  | nil => simp [DistinctEntries]
  | cons e es ih => simp [DistinctEntries, ih]

@[simp] theorem distinct_mapping (es : Entries Value) :
    (mapping es).Distinct ↔ es.names.Nodup ∧ ∀ e ∈ es, e.2.Distinct := by
  rw [Distinct, distinctEntries_iff]

/-! ### The nodes of such a value -/

theorem Distinct.child? {v w : Value} (hv : v.Distinct) {segment : String}
    (h : v.child? segment = some w) : w.Distinct := by
  cases v with
  | mapping es => exact ((distinct_mapping es).1 hv).2 _ (Entries.mem_of_find? h)
  | sequence xs =>
    obtain ⟨i, -, hi⟩ := Option.bind_eq_some_iff.1 h
    exact (distinct_sequence xs).1 hv _ (List.mem_of_getElem? hi)
  | _ => cases h

theorem Distinct.node? {v w : Value} (hv : v.Distinct) {path : Path}
    (h : v.node? path = some w) : w.Distinct := by
  induction path generalizing v with
  | nil =>
    cases h
    exact hv
  | cons segment path ih =>
    obtain ⟨child, hchild, hnode⟩ := Option.bind_eq_some_iff.1 h
    exact ih (hv.child? hchild) hnode

end Value

end PathBag
