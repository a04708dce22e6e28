import PathBag.Bag
import PathBag.Proofs.View.Places

/-!
# Views and plain bags

A view on a tree and a plain bag write alike (`set_agrees_with_plain`).  A view makes the place of a
key first, with null in it, and then writes there; that comes to the same as one write, since two
edits at one place are one.  Getting a handle writes only where there is nothing, so a second one
changes nothing (`handle_handle`), and what a handle reads can be written back without a trace
(`Handle.set_get`).
-/

namespace PathBag

open Value

theorem Plain.write_of_node? {p : Path} {w t : Value} (h : t.node? p = some w) :
    Plain.write p false w t = t := alter_of_node? h rfl

theorem Bag.set_plain (t : Value) (key : String) (v : Value) :
    (⟨.plain, t⟩ : Bag).set key v =
      .done ⟨.plain, t.alter (Path.ofKey key) fun _ => v⟩ := rfl

/-- A handle that reads a node writes it back without a trace. -/
theorem Handle.set_get {h : Handle} {w t : Value} (hw : t.node? h.path = some w) :
    h.set (h.get t) t = t := by
  rw [get, hw]
  exact alter_of_node? hw rfl

namespace View

variable {key : String} {t w : Value}

theorem handle_of_node? (h : t.node? (Path.ofKey key) = some w) (d : Value) :
    handle key d t = (⟨Path.ofKey key⟩, t) := by
  rw [handle_eq, h]
  rfl

theorem handle_of_none (h : t.node? (Path.ofKey key) = none) (d : Value) :
    handle key d t = (⟨Path.ofKey key⟩, t.alter (Path.ofKey key) fun _ => d) := by
  rw [handle_eq, h]
  rfl

/-- Once a handle was got, the place is there, and a second default does not come in. -/
theorem handle_handle (key : String) (d d' t : Value) :
    handle key d' (handle key d t).2 = handle key d t := by
  cases h : t.node? (Path.ofKey key) with
  | none => rw [handle_of_none h, handle_of_node? (node?_alter_self _ _ t)]
  | some w => rw [handle_of_node? h, handle_of_node? h]

/-- **A view writes as a plain bag does.**  Setting leaves the tree that a plain bag makes of it.
Getting a handle on a key that is there leaves the tree as it is, and the handle reads the stored
node; on a missing key it leaves the tree of a plain bag in which the default was set, and the
handle reads the default.  A second handle changes nothing, whatever its default.  And at every
place that is there, writing back what was read leaves the tree as it is. -/
theorem set_agrees_with_plain (t : Value) (key : String) (v d d' : Value) :
    (⟨.plain, t⟩ : Bag).set key v = .done ⟨.plain, set key v t⟩ ∧
    (∀ w, t.node? (Path.ofKey key) = some w →
      (handle key d t).2 = t ∧ (handle key d t).1.get t = w) ∧
    (t.node? (Path.ofKey key) = none →
      (⟨.plain, t⟩ : Bag).set key d = .done ⟨.plain, (handle key d t).2⟩ ∧
      (handle key d t).1.get (handle key d t).2 = d) ∧
    handle key d' (handle key d t).2 = handle key d t ∧
    ∀ (h : Handle) (w : Value), t.node? h.path = some w →
      h.set (h.get t) t = t ∧ Plain.write h.path false w t = t := by
  refine ⟨?_, ?_, ?_, handle_handle key d d' t, ?_⟩
  · rw [Bag.set_plain, set_eq_alter]
  · intro w hw
    rw [handle_of_node? hw, Handle.get, hw]
    exact ⟨rfl, rfl⟩
  · intro hnone
    rw [Bag.set_plain, handle_of_none hnone, Handle.get, node?_alter_self]
    exact ⟨rfl, rfl⟩
  · intro h w hw
    exact ⟨Handle.set_get hw, Plain.write_of_node? hw⟩

/-- An item is there; below a name the sequence has to become a mapping first. -/
theorem set_agrees_with_plain_sequence :
    (handle "xs.0" (int 5) (mapping [("xs", sequence [int 4])])).1.get
      (mapping [("xs", sequence [int 4])]) = int 4 ∧
    (⟨.plain, mapping [("xs", sequence [int 4])]⟩ : Bag).set "xs.x.y" (int 5) =
      .done ⟨.plain, (handle "xs.x.y" (int 5) (mapping [("xs", sequence [int 4])])).2⟩ ∧
    (handle "xs.x.y" (int 5) (mapping [("xs", sequence [int 4])])).2 =
      mapping [("xs", mapping [("0", int 4), ("x", mapping [("y", int 5)])])] ∧
    (⟨["xs", "0"]⟩ : Handle).set ((⟨["xs", "0"]⟩ : Handle).get (mapping [("xs", sequence [int 4])]))
      (mapping [("xs", sequence [int 4])]) = mapping [("xs", sequence [int 4])] := by
  have law (key : String) :=
    set_agrees_with_plain (mapping [("xs", sequence [int 4])]) key null (int 5) null
  refine ⟨?_, ((law "xs.x.y").2.2.1 rfl).1, rfl, ?_⟩
  · exact ((law "xs.0").2.1 (int 4) rfl).2
  · exact ((law "").2.2.2.2 ⟨["xs", "0"]⟩ (int 4) rfl).1

end View

end PathBag
