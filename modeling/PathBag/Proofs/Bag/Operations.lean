import PathBag.Bag
import PathBag.Proofs.Eval.Outcome

/-!
# Questions and runs

The answers of a reader and of a bag, by what reading the key ends in: a value, a miss, or a fault
of another kind.  Only a miss turns into a default.  A plain bag has no faults but misses, so it
answers every question with the stored node or the default (`Plain.get_read`).

A run makes changes one after the other until one of them stops.  What each single change keeps
between two bags, a run keeps between them, and neither stops (`run_lockstep`).
-/

namespace PathBag

/-! ### Questions -/

namespace Lookup

variable {read : Lookup} {key : String}

theorem getAs_of_ok {v : Value} (h : read key = .ok v) (default : Value) (filter : Filter) :
    read.getAs key default filter = .ok (if filter.admits v then v else default) := by
  rw [getAs_eq, h]
  rfl

theorem getAs_of_error {fault : Fault} (h : read key = .error fault) (default : Value)
    (filter : Filter) :
    read.getAs key default filter = if fault.isMiss then .ok default else .error fault := by
  rw [getAs_eq, h]
  rfl

theorem hasAs_of_ok {v : Value} (h : read key = .ok v) (filter : Filter) :
    read.hasAs key filter = .ok (filter.admits v) := by
  rw [hasAs_eq, h]
  rfl

theorem hasAs_of_error {fault : Fault} (h : read key = .error fault) (filter : Filter) :
    read.hasAs key filter = if fault.isMiss then .ok false else .error fault := by
  rw [hasAs_eq, h]
  rfl

end Lookup

namespace Value

/-- The composite that a value is, or the empty one. -/
theorem size_composite_or_empty (v : Value) :
    (if Filter.composite.admits v then v else empty).size = v.size := by
  cases v <;> rfl

end Value

namespace Bag

variable (b : Bag) {key : String}

theorem count_of_empty (h : key.isEmpty = true) : b.count key = .ok b.tree.size := by
  rw [count, if_pos h]

theorem count_of_ok {v : Value} (hne : key.isEmpty = false) (h : b.read key = .ok v) :
    b.count key = .ok v.size := by
  have hhas : b.read.has key = .ok true := Lookup.hasAs_of_ok h .any
  rw [count, if_neg (by simp [hne]), hhas, Lookup.getAs_of_ok h]
  exact congrArg Except.ok v.size_composite_or_empty

theorem count_of_error {fault : Fault} (hne : key.isEmpty = false)
    (h : b.read key = .error fault) :
    b.count key = if fault.isMiss then .ok 0 else .error fault := by
  have hhas : b.read.has key = if fault.isMiss then .ok false else .error fault :=
    Lookup.hasAs_of_error h .any
  rw [count, if_neg (by simp [hne]), hhas]
  cases fault.isMiss <;> rfl

end Bag

namespace Plain

open Value

/-- A plain walk ends at the node of its path, or misses because there is none. -/
theorem walk_cases (key : String) (path : Path) (v : Value) :
    (∃ w, v.node? path = some w ∧ walk key path v = .ok w) ∨
      v.node? path = none ∧ ∃ segment, walk key path v = .error (.noValue key segment) := by
  induction path generalizing v with
  | nil => exact .inl ⟨v, rfl, rfl⟩
  | cons segment path ih =>
    rw [walk, node?_cons]
    cases v.child? segment with
    | none => exact .inr ⟨rfl, segment, rfl⟩
    | some child => exact ih child

theorem node?_of_walk {key : String} {path : Path} {v w : Value} (h : walk key path v = .ok w) :
    v.node? path = some w := by
  rcases walk_cases key path v with ⟨w', hnode, hwalk⟩ | ⟨-, segment, hwalk⟩
  · rw [hnode, Except.ok.inj (hwalk.symm.trans h)]
  · cases hwalk.symm.trans h

/-- On plain data a question with a default always has an answer. -/
theorem get_read (tree : Value) (key : String) (default : Value) :
    Lookup.get (read tree) key default = .ok ((tree.node? (Path.ofKey key)).getD default) := by
  rcases walk_cases key (Path.ofKey key) tree with ⟨w, hnode, hwalk⟩ | ⟨hnode, segment, hwalk⟩
  · have hread : read tree key = .ok w := hwalk
    rw [hnode]
    exact Lookup.getAs_of_ok hread default .any
  · have hread : read tree key = .error (.noValue key segment) := hwalk
    rw [hnode]
    exact Lookup.getAs_of_error hread default .any

end Plain

/-! ### Runs -/

/-- A change of a bag. -/
inductive Change where
  | set (key : String) (v : Value)
  | merge (key : String) (v : Value)
  | push (key : String) (v : Value)
  | erase (key : String)

namespace Bag

/-- The bag after a change. -/
def apply (b : Bag) : Change → Edited Bag
  | .set key v => b.set key v
  | .merge key v => b.merge key v
  | .push key v => .done (b.push key v)
  | .erase key => .done (b.erase key)

/-- The bag after some changes, or as far as the first that stops. -/
def run (b : Bag) : List Change → Edited Bag
  | [] => .done b
  | c :: cs => (b.apply c).andThen (run · cs)

theorem run_cons_of_done {a b : Bag} {c : Change} (h : a.apply c = .done b) (cs : List Change) :
    a.run (c :: cs) = b.run cs := by
  rw [run, h, Edited.done_andThen]

/-- Two bags in a relation that every admitted change keeps go through the same changes in step. -/
theorem run_lockstep {Related : Bag → Bag → Prop} {Admitted : Change → Prop}
    (step : ∀ a b c, Related a b → Admitted c →
      ∃ a' b', a.apply c = .done a' ∧ b.apply c = .done b' ∧ Related a' b')
    {a b : Bag} (hab : Related a b) {cs : List Change} (hcs : ∀ c ∈ cs, Admitted c) :
    ∃ a' b', a.run cs = .done a' ∧ b.run cs = .done b' ∧ Related a' b' := by
  induction cs generalizing a b with
  | nil => exact ⟨a, b, rfl, rfl, hab⟩
  | cons c cs ih =>
    obtain ⟨hc, hcs⟩ := List.forall_mem_cons.1 hcs
    obtain ⟨a', b', ha, hb, hab'⟩ := step a b c hab hc
    rw [run_cons_of_done ha, run_cons_of_done hb]
    exact ih hab' hcs

end Bag

end PathBag
