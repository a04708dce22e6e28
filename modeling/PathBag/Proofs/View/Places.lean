import PathBag.Proofs.Tree.Erase
import PathBag.View

/-!
# Places that stay good

Any number of views and handles may work on one tree, in any order.  All that they share is the
tree, so a run of them is a list of operations, each on the tree as the one before it left it.

A handle keeps the path of its place.  While the others write beside this path, and take no item
out of a sequence on it, the handle reads what the place held (`node?_run`, `Handle.get_run`), even
where they make sequences on the path into mappings.
-/

namespace PathBag

namespace View

/-! ### Operations -/

/-- An operation of a view or of a handle that may change the tree. -/
inductive Step where
  | get (key : String) (default : Value)
  | set (key : String) (v : Value)
  | erase (key : String)
  | write (h : Handle) (v : Value)
  | update (h : Handle) (f : Value → Value)

/-- Where an operation works. -/
def Step.path : Step → Path
  | get key _ | set key _ | erase key => Path.ofKey key
  | write h _ | update h _ => h.path

/-- The tree after an operation. -/
def Step.apply : Step → Value → Value
  | get key default, t => (View.handle key default t).2
  | set key v, t => View.set key v t
  | erase key, t => View.erase key t
  | write h v, t => h.set v t
  | update h f, t => h.update f t

/-- The tree after operations, one after the other. -/
def run : List Step → Value → Value
  | [], t => t
  | s :: steps, t => run steps (s.apply t)

/-- Getting a handle writes the default, or nothing if the place is there. -/
theorem handle_eq (key : String) (default t : Value) :
    handle key default t = (⟨Path.ofKey key⟩,
      if (t.node? (Path.ofKey key)).isSome then t
      else t.alter (Path.ofKey key) fun _ => default) := by
  unfold handle
  dsimp only
  cases t.node? (Path.ofKey key) <;> rfl

/-- Setting is one write, whether or not the place was there. -/
theorem set_eq_alter (key : String) (v t : Value) :
    set key v t = t.alter (Path.ofKey key) fun _ => v := by
  rw [set, handle_eq]
  dsimp only [Handle.set]
  split
  · rfl
  · exact Value.alter_alter _ _ _ t

/-! ### Operations that spare a place -/

/-- The operation works beside the place and takes no item out of a sequence on its path. -/
def Step.Spares (place : Path) (t : Value) (s : Step) : Prop :=
  s.path.Diverges place ∧ ∀ key, s = .erase key → ¬ (Path.ofKey key).TakesItem place t

/-- Each operation of a run spares the place in the tree that it finds. -/
def Spare (place : Path) : List Step → Value → Prop
  | [], _ => True
  | s :: steps, t => s.Spares place t ∧ Spare place steps (s.apply t)

theorem node?_apply {place : Path} {t : Value} {s : Step} (h : s.Spares place t) :
    (s.apply t).node? place = t.node? place := by
  obtain ⟨hbeside, hitem⟩ := h
  cases s with
  | get key default =>
    rw [Step.apply, handle_eq]
    dsimp only
    split
    · rfl
    · exact Value.node?_alter_of_diverges hbeside _ t
  | set key v =>
    rw [Step.apply, set_eq_alter]
    exact Value.node?_alter_of_diverges hbeside _ t
  | erase key => exact Value.node?_erase_of_diverges hbeside (hitem key rfl)
  | write h v => exact Value.node?_alter_of_diverges hbeside _ t
  | update h f => exact Value.node?_alter_of_diverges hbeside f t

theorem node?_run {place : Path} {t : Value} {steps : List Step} (h : Spare place steps t) :
    (run steps t).node? place = t.node? place := by
  induction steps generalizing t with
  | nil => rfl
  | cons s steps ih => exact (ih h.2).trans (node?_apply h.1)

end View

/-- **A handle stays good.**  Let others work on the tree, in any number and any order, beside the
path of a handle and without taking an item out of a sequence on this path.  If the handle named a
node it reads this node still, and what it wrote before it reads again. -/
theorem Handle.get_run (h : Handle) (t : Value) (steps : List View.Step) :
    (∀ w, t.node? h.path = some w → View.Spare h.path steps t →
      h.get (View.run steps t) = w) ∧
    (∀ v, View.Spare h.path steps (h.set v t) → h.get (View.run steps (h.set v t)) = v) := by
  refine ⟨fun w hw hspare => ?_, fun v hspare => ?_⟩
  · rw [get, View.node?_run hspare, hw]
    rfl
  · rw [get, View.node?_run hspare, set, Value.node?_alter_self]
    rfl

/-- A sequence on the path becomes a mapping, and then its first entry goes. -/
theorem Handle.get_run_promoted :
    (Value.mapping [("k", .null), ("xs", .sequence [.int 1, .int 2])]).node? ["xs", "1"] =
      some (.int 2) ∧
    View.Spare ["xs", "1"] [.get "k.new" (.int 5), .set "xs.name" (.bool true), .erase "xs.0",
        .update ⟨["xs", "2"]⟩ (Value.append .null)]
      (.mapping [("k", .null), ("xs", .sequence [.int 1, .int 2])]) ∧
    (⟨["xs", "1"]⟩ : Handle).get (View.run [.get "k.new" (.int 5), .set "xs.name" (.bool true),
        .erase "xs.0", .update ⟨["xs", "2"]⟩ (Value.append .null)]
      (.mapping [("k", .null), ("xs", .sequence [.int 1, .int 2])])) = .int 2 := by
  have hspare : View.Spare ["xs", "1"] [.get "k.new" (.int 5), .set "xs.name" (.bool true),
      .erase "xs.0", .update ⟨["xs", "2"]⟩ (Value.append .null)]
      (.mapping [("k", .null), ("xs", .sequence [.int 1, .int 2])]) := by
    refine ⟨⟨by decide, fun _ h => by cases h⟩, ⟨by decide, fun _ h => by cases h⟩,
      ⟨by decide, ?_⟩, ⟨by decide, fun _ h => by cases h⟩, trivial⟩
    rintro key ⟨rfl⟩
    have hmapping : (View.run [.get "k.new" (.int 5), .set "xs.name" (.bool true)]
        (.mapping [("k", .null), ("xs", .sequence [.int 1, .int 2])])).node? ["xs"] =
          some (.mapping [("0", .int 1), ("1", .int 2), ("name", .bool true)]) := rfl
    exact Path.not_takesItem_of_mapping hmapping "0" _
  exact ⟨rfl, hspare, (Handle.get_run ⟨["xs", "1"]⟩ _ _).1 _ rfl hspare⟩

/-- When an item goes out of a sequence on its path, a handle reads what moves up. -/
example : (⟨["xs", "1"]⟩ : Handle).get (View.erase "xs.0"
    (.mapping [("xs", .sequence [.int 1, .int 2, .int 3])])) = .int 3 := rfl

end PathBag
