import PathBag.Bag.Access
import PathBag.Proofs.Tree.Erase

/-!
# Deletion

Deleting takes the one child that the last segment names out of its parent and leaves everything
else (`erase_concat`).  It undoes a write that made this child: a new entry of a mapping and a new
item of a sequence both come last, where they go out again without a trace
(`eraseChild_alterChild_mapping`, `eraseChild_alterChild_sequence`).
-/

namespace PathBag

theorem Entries.erase_upsert_of_notMem {α : Type} {name : String} {es : Entries α}
    (h : name ∉ es.names) (fill : α) (f : α → α) : (es.upsert name fill f).erase name = es := by
  have hes : es.filter (·.1 ≠ name) = es := erase_of_notMem h
  rw [upsert_of_notMem h, erase, List.filter_append, hes]
  simp

namespace Value

open Decimal

/-! ### Taking back a new child -/

theorem eraseChild_alterChild_mapping {s : String} {es : Entries Value} (h : s ∉ es.names)
    (fill : Value) (f : Value → Value) :
    ((mapping es).alterChild s fill f).eraseChild s = mapping es :=
  congrArg mapping (Entries.erase_upsert_of_notMem h fill f)

theorem eraseChild_alterChild_sequence (xs : List Value) (fill : Value) (f : Value → Value) :
    ((sequence xs).alterChild (writeNat xs.length) fill f).eraseChild (writeNat xs.length) =
      sequence xs := by
  rw [alterChild_sequence_of_le _ _ (Nat.le_refl _), if_neg (Nat.lt_irrefl _),
    eraseChild_sequence_of_lt (by simp), List.eraseIdx_append_of_length_le (Nat.le_refl _)]
  simp

/-- Where erasing takes back what an edit did to the parent, it takes back the whole edit. -/
theorem erase_alter {q : Path} {s : String} {t parent : Value} {f : Value → Value}
    (h : t.node? q = some parent) (hundo : (parent.alterChild s empty f).eraseChild s = parent) :
    (t.alter (q ++ [s]) f).erase (q ++ [s]) = t := by
  have hnode : (t.alter (q ++ [s]) f).node? q = some (parent.alterChild s empty f) := by
    rw [node?_alter_above, h]
    rfl
  rw [erase_concat_of_some hnode, alter_append, alter_alter]
  exact alter_of_node? h hundo

/-! ### Deletion -/

/-- **Deletion is exact and undoes creation.**  Where nothing stands at the path, nothing changes.
A mapping loses the entry of the last segment, and the others keep their order; a sequence loses the
item at the position of the last segment, and the items behind it move up by one.  What is beside
the parent stays.  If the last segment is a new name in a mapping, or the next position in a
sequence, then deleting takes back whatever was written there. -/
theorem erase_concat (t : Value) (q : Path) (s : String) :
    (t.node? (q ++ [s]) = none → t.erase (q ++ [s]) = t) ∧
    (∀ es, t.node? q = some (mapping es) →
      (t.erase (q ++ [s])).node? q = some (mapping (es.filter fun e => e.1 ≠ s)) ∧
      (s ∉ Entries.names es → ∀ merging v,
        (Plain.write (q ++ [s]) merging v t).erase (q ++ [s]) = t)) ∧
    (∀ xs, t.node? q = some (sequence xs) →
      (∀ i < xs.length, s = writeNat i →
        (t.erase (q ++ [s])).node? q = some (sequence (xs.take i ++ xs.drop (i + 1)))) ∧
      (s = writeNat xs.length → ∀ merging v,
        (Plain.write (q ++ [s]) merging v t).erase (q ++ [s]) = t)) ∧
    ∀ r, q.Diverges r → (t.erase (q ++ [s])).node? r = t.node? r := by
  refine ⟨erase_of_missing, ?_, ?_, ?_⟩
  · intro es hes
    refine ⟨node?_erase_parent hes, ?_⟩
    intro hs merging v
    exact erase_alter hes (eraseChild_alterChild_mapping hs _ _)
  · intro xs hxs
    constructor
    · rintro i hi rfl
      rw [node?_erase_parent hxs, eraseChild_sequence_of_lt hi, List.eraseIdx_eq_take_drop_succ]
    · rintro rfl merging v
      exact erase_alter hxs (eraseChild_alterChild_sequence xs _ _)
  · intro r hr
    exact node?_erase_beside_parent hr

/-- An entry goes out of a mapping and an item out of a sequence, new ones go out again, and a
decimal that is not canonical names no item. -/
theorem erase_concat_both :
    (mapping [("k", null), ("xs", sequence [int 4, int 5])]).erase ["xs", "01"] =
      mapping [("k", null), ("xs", sequence [int 4, int 5])] ∧
    ((mapping [("k", null), ("xs", sequence [int 4, int 5])]).erase ["k"]).node? [] =
      some (mapping [("xs", sequence [int 4, int 5])]) ∧
    (Plain.write ["n"] true (int 7) (mapping [("k", null), ("xs", sequence [int 4, int 5])])).erase
      ["n"] = mapping [("k", null), ("xs", sequence [int 4, int 5])] ∧
    ((mapping [("k", null), ("xs", sequence [int 4, int 5])]).erase ["xs", "0"]).node? ["xs"] =
      some (sequence [int 5]) ∧
    (Plain.write ["xs", "2"] false empty
      (mapping [("k", null), ("xs", sequence [int 4, int 5])])).erase ["xs", "2"] =
      mapping [("k", null), ("xs", sequence [int 4, int 5])] ∧
    ((mapping [("k", null), ("xs", sequence [int 4, int 5])]).erase ["xs", "0"]).node? ["k"] =
      some null := by
  have law := erase_concat (mapping [("k", null), ("xs", sequence [int 4, int 5])])
  refine ⟨?_, ?_, ?_, ?_, ?_, ?_⟩
  · exact (law ["xs"] "01").1 rfl
  · exact ((law [] "k").2.1 _ rfl).1
  · exact ((law [] "n").2.1 _ rfl).2 (by decide) true (int 7)
  · exact ((law ["xs"] "0").2.2.1 _ rfl).1 0 (by decide) (by decide)
  · exact ((law ["xs"] "2").2.2.1 _ rfl).2 (by decide) false empty
  · exact (law ["xs"] "0").2.2.2 ["k"] (by decide)

end Value

end PathBag
