import PathBag.Proofs.Bag.Operations
import PathBag.Proofs.Eval.Inert
import PathBag.Proofs.Tree.Write

/-!
# Without markers a live bag is a plain one

A live write goes down its path level by level before it writes.  Where no expression stands on the
way it forces nothing, cannot stop, and leaves a tree in which the write does what it would have
done at once (`clear_of_unforced`).

On a tree without markers, the level-by-level write of a live bag forces nothing and ends in the
tree of the plain write (`write_of_inert`), and its reads are the plain reads with the strings
trimmed.  The tree stays without markers, so this goes on along every run of changes that bring
in none (`run_of_inert`).

A mapping with entries is set or merged entry by entry in a live bag and as a whole in a plain one,
so such values are left out here.
-/

namespace PathBag

open Marker (isExpression)

/-! ### Making room for a write -/

namespace Live

open Value

/-- No expression stands at `above` or on the way from there to the end of the path below it. -/
def Unforced (above path : Path) (tree : Value) : Prop :=
  ∀ r, r <+: path → r ≠ path → ∀ s, tree.node? (above ++ r) = some (string s) →
    isExpression s = false

theorem force_of_unforced {above path : Path} {tree : Value} (hne : path ≠ [])
    (h : Unforced above path tree) : force above tree = .done tree := by
  unfold force
  split
  · next s hs =>
    have hplain : isExpression s = false := h [] List.nil_prefix (Ne.symm hne) s (by simpa using hs)
    rw [if_neg (by simp [hplain])]
  · rfl

/-- The node for which room is made was there, or it is an empty mapping: no expression either. -/
theorem Unforced.room {above path : Path} {segment : String} {tree : Value}
    (h : Unforced above (segment :: path) tree) :
    Unforced (above ++ [segment]) path (tree.alter (above ++ [segment]) id) := by
  intro r hr hne s hs
  rw [node?_alter_append, id_eq] at hs
  cases hnode : tree.node? (above ++ [segment]) with
  | none =>
    rw [hnode] at hs
    cases r <;> cases hs
  | some node =>
    refine h (segment :: r) ((List.prefix_cons_inj segment).2 hr) (by simpa using hne) s ?_
    rw [List.append_cons, node?_append, hnode]
    simpa [hnode] using hs

/-- Making room for a path changes nothing that the edit at its end would not change. -/
theorem clear_of_unforced {above path : Path} {tree : Value} (h : Unforced above path tree) :
    ∃ tree', clear above path tree = .done tree' ∧
      ∀ f, tree'.alter (above ++ path) f = tree.alter (above ++ path) f := by
  induction path generalizing above tree with
  | nil => exact ⟨tree, rfl, fun _ => rfl⟩
  | cons segment path ih =>
    obtain ⟨tree', hclear, halter⟩ := ih h.room
    refine ⟨tree', ?_, fun f => ?_⟩
    · rw [clear, force_of_unforced (List.cons_ne_nil _ _) h, Edited.done_andThen, hclear]
    · have hf := halter f
      rw [alter_append _ path, alter_append _ path, alter_alter] at hf
      rw [List.append_cons, alter_append _ path, alter_append _ path, hf]
      rfl

/-- A write in one piece is then the plain edit at the path. -/
theorem writeLeaf_of_unforced {path : Path} {tree : Value} (h : Unforced [] path tree)
    (merging : Bool) (v : Value) :
    writeLeaf path merging v tree =
      .done (tree.alter path fun slot => if merging then slot.merge v else v) := by
  obtain ⟨tree', hclear, halter⟩ := clear_of_unforced h
  rw [writeLeaf, hclear, Edited.done_andThen]
  exact congrArg Edited.done (halter _)

end Live

/-! ### Writes -/

namespace Value

/-- A write puts the value in its place in one piece: it is no mapping with entries. -/
def InOnePiece : Value → Prop
  | mapping (_ :: _) => False
  | _ => True

instance : (v : Value) → Decidable v.InOnePiece
  | mapping (_ :: _) => .isFalse id
  | mapping [] | sequence _ | string _ | float _ | int _ | bool _ | null => .isTrue trivial

end Value

namespace Live

/-- Without markers there is nothing to force. -/
theorem unforced_of_inert {tree : Value} (htree : tree.Inert) (above path : Path) :
    Unforced above path tree :=
  fun _ _ _ s hs => (Value.each_string s).1 (htree.node? hs)

theorem write_of_inert {path : Path} {merging : Bool} {v tree : Value} (hv : v.InOnePiece)
    (htree : tree.Inert) :
    write path merging v tree = .done (Plain.write path merging v tree) := by
  have hleaf : writeLeaf path merging v tree = .done (Plain.write path merging v tree) :=
    writeLeaf_of_unforced (unforced_of_inert htree [] path) merging v
  cases v with
  | mapping es =>
    cases es with
    | nil => exact hleaf
    | cons e es => exact hv.elim
  | _ => exact hleaf

end Live

theorem Plain.inert_write {path : Path} {merging : Bool} {v tree : Value} (hpath : path.Inert)
    (hv : v.Inert) (htree : tree.Inert) : (Plain.write path merging v tree).Inert := by
  refine htree.alter Value.isExpression_writeNat hpath fun slot hslot => ?_
  split
  · exact hslot.merge Value.isExpression_writeNat hv
  · exact hv

/-! ### Steps -/

/-- The change brings no marker in, and what it sets or merges it sets or merges in one piece. -/
def Change.Inert : Change → Prop
  | set key v | merge key v => (Path.ofKey key).Inert ∧ v.Inert ∧ v.InOnePiece
  | push key v => (Path.ofKey key).Inert ∧ v.Inert
  | erase key => (Path.ofKey key).Inert

instance : (c : Change) → Decidable c.Inert
  | .set _ _ | .merge _ _ => inferInstanceAs (Decidable (_ ∧ _ ∧ _))
  | .push _ _ => inferInstanceAs (Decidable (_ ∧ _))
  | .erase key => inferInstanceAs (Decidable (Path.ofKey key).Inert)

namespace Bag

/-- A live and a plain bag of one tree without markers. -/
def Twins (a b : Bag) : Prop := ∃ t : Value, t.Inert ∧ a = ⟨.live, t⟩ ∧ b = ⟨.plain, t⟩

theorem write_twins {a b : Bag} (h : Twins a b) {key : String} {v : Value} (merging : Bool)
    (hkey : (Path.ofKey key).Inert) (hv : v.Inert) (hpiece : v.InOnePiece) :
    ∃ a' b', a.write key merging v = .done a' ∧ b.write key merging v = .done b' ∧ Twins a' b' := by
  obtain ⟨t, ht, rfl, rfl⟩ := h
  refine ⟨_, _, ?_, rfl, _, Plain.inert_write hkey hv ht, rfl, rfl⟩
  rw [write, Live.write_of_inert hpiece ht]
  rfl

/-- One change keeps twins twins, and stops for neither. -/
theorem apply_twins (a b : Bag) (c : Change) (h : Twins a b) (hc : c.Inert) :
    ∃ a' b', a.apply c = .done a' ∧ b.apply c = .done b' ∧ Twins a' b' := by
  cases c with
  | set key v => exact write_twins h false hc.1 hc.2.1 hc.2.2
  | merge key v => exact write_twins h true hc.1 hc.2.1 hc.2.2
  | push key v =>
    obtain ⟨t, ht, rfl, rfl⟩ := h
    refine ⟨_, _, rfl, rfl, _, ?_, rfl, rfl⟩
    exact ht.alter Value.isExpression_writeNat hc.1 fun w hw => hw.append hc.2
  | erase key =>
    obtain ⟨t, ht, rfl, rfl⟩ := h
    exact ⟨_, _, rfl, rfl, _, ht.erase Value.isExpression_writeNat hc, rfl, rfl⟩

/-! ### Reads -/

section Twins

variable {t : Value} (ht : t.Inert) (key : String)

include ht

theorem readRaw_of_inert : (⟨.live, t⟩ : Bag).readRaw key = (⟨.plain, t⟩ : Bag).read key :=
  Live.readRaw_of_inert ht key

theorem read_of_inert :
    (⟨.live, t⟩ : Bag).read key = ((⟨.plain, t⟩ : Bag).read key).map Value.trimmed :=
  Live.read_of_inert ht key

theorem has_of_inert : (⟨.live, t⟩ : Bag).read.has key = (⟨.plain, t⟩ : Bag).read.has key := by
  have hread := read_of_inert ht key
  rw [Lookup.has, Lookup.has]
  cases hplain : (⟨.plain, t⟩ : Bag).read key with
  | ok v =>
    rw [hplain] at hread
    rw [Lookup.hasAs_of_ok hread, Lookup.hasAs_of_ok hplain]
    rfl
  | error fault =>
    rw [hplain] at hread
    rw [Lookup.hasAs_of_error hread, Lookup.hasAs_of_error hplain]

theorem count_of_inert : (⟨.live, t⟩ : Bag).count key = (⟨.plain, t⟩ : Bag).count key := by
  have hread := read_of_inert ht key
  cases hkey : key.isEmpty with
  | true => rw [count_of_empty _ hkey, count_of_empty _ hkey]
  | false =>
    cases hplain : (⟨.plain, t⟩ : Bag).read key with
    | ok v =>
      rw [hplain] at hread
      rw [count_of_ok _ hkey hread, count_of_ok _ hkey hplain, Value.size_trimmed]
    | error fault =>
      rw [hplain] at hread
      rw [count_of_error _ hkey hread, count_of_error _ hkey hplain]

end Twins

/-! ### Runs -/

/-- **Without markers a live bag is a plain one.**  Start both from one tree without markers and
let them go through changes that bring in none.  After every number of steps neither has stopped,
they hold the same tree, still without markers, and for every key the live bag stores what the
plain one reads, misses with the same fault, reads it with its strings trimmed, and agrees on
whether it is there and how many children it has. -/
theorem run_of_inert {t : Value} (ht : t.Inert) {cs : List Change} (hcs : ∀ c ∈ cs, c.Inert)
    (n : Nat) :
    ∃ t' : Value, t'.Inert ∧
      (⟨.live, t⟩ : Bag).run (cs.take n) = .done ⟨.live, t'⟩ ∧
      (⟨.plain, t⟩ : Bag).run (cs.take n) = .done ⟨.plain, t'⟩ ∧
      ∀ key,
        (⟨.live, t'⟩ : Bag).readRaw key = (⟨.plain, t'⟩ : Bag).read key ∧
        (⟨.live, t'⟩ : Bag).read key = ((⟨.plain, t'⟩ : Bag).read key).map Value.trimmed ∧
        (⟨.live, t'⟩ : Bag).read.has key = (⟨.plain, t'⟩ : Bag).read.has key ∧
        (⟨.live, t'⟩ : Bag).count key = (⟨.plain, t'⟩ : Bag).count key := by
  have htake : ∀ c ∈ cs.take n, c.Inert := fun c hc => hcs c (List.mem_of_mem_take hc)
  obtain ⟨a, b, ha, hb, t', ht', rfl, rfl⟩ := run_lockstep apply_twins ⟨t, ht, rfl, rfl⟩ htake
  exact ⟨t', ht', ha, hb, fun key => ⟨readRaw_of_inert ht' key, read_of_inert ht' key,
    has_of_inert ht' key, count_of_inert ht' key⟩⟩

/-- Stray braces are no markers: a scalar gives way to a mapping, a sequence to the mapping of its
positions, and what was merged in is read trimmed. -/
theorem run_of_inert_stray_braces :
    (Value.mapping [("a", .string " \x7b "), ("xs", .sequence [.int 1])]).Inert ∧
    (∀ c ∈ [Change.set "a.b" (.int 5), .merge "xs.\x7d" (.string " $\x7b "), .push "p" .null],
      c.Inert) ∧
    ∃ t : Value,
      (⟨.live, .mapping [("a", .string " \x7b "), ("xs", .sequence [.int 1])]⟩ : Bag).run
          [.set "a.b" (.int 5), .merge "xs.\x7d" (.string " $\x7b "), .push "p" .null] =
        .done ⟨.live, t⟩ ∧
      (⟨.live, t⟩ : Bag).read "xs.\x7d" = .ok (.string "$\x7b") ∧
      (⟨.live, t⟩ : Bag).count "xs" = .ok 2 := by
  have ht : (Value.mapping [("a", .string " \x7b "), ("xs", .sequence [.int 1])]).Inert := by decide
  have hcs : ∀ c ∈ [Change.set "a.b" (.int 5), .merge "xs.\x7d" (.string " $\x7b "),
      .push "p" .null], c.Inert := by decide
  refine ⟨ht, hcs, ?_⟩
  obtain ⟨t, -, hlive, hplain, hreads⟩ := run_of_inert ht hcs 3
  cases hplain
  obtain ⟨-, hread, -, -⟩ := hreads "xs.\x7d"
  obtain ⟨-, -, -, hcount⟩ := hreads "xs"
  exact ⟨_, hlive, hread, hcount⟩

end Bag

end PathBag
