import PathBag.Proofs.Bag.Operations
import PathBag.Proofs.Bag.Roots
import PathBag.Proofs.Eval.Forms
import PathBag.Proofs.Eval.Misses
import PathBag.Proofs.Eval.Subtrees

/-!
# Counting and reading

Evaluation keeps the number of children of what is no text, so it makes no difference whether the
stored value is counted or the one that is read.  A text may have a composite for its value, and
then it does.  Only the empty key counts what is stored, so counting and reading agree on every other
key, and on the empty one unless the root is a text with children in its value
(`Bag.count_of_read`).  A change puts a text in the place of the root only if it is told so, by the
empty key (`Bag.kind_applyAll`).
-/

namespace PathBag

open Value

/-! ### The size of what is read -/

namespace Live

variable {ev : String → Except Fault Value}

theorem length_of_evalEntries {es es' : Entries Value} (h : evalEntries ev es = .ok es') :
    es'.length = es.length := by
  induction es generalizing es' with
  | nil =>
    cases h
    rfl
  | cons e es ih =>
    obtain ⟨v, -, h⟩ := exists_of_bind_eq_ok h
    obtain ⟨rest, hes, h⟩ := exists_of_bind_eq_ok h
    cases h
    exact congrArg (· + 1) (ih hes)

/-- What is no text keeps its number of children. -/
theorem size_of_evalWith {raw v : Value} (hraw : raw.kind ≠ .string)
    (h : evalWith ev raw = .ok v) : v.size = raw.size := by
  cases raw with
  | string s => exact absurd rfl hraw
  | sequence xs =>
    obtain ⟨xs', hxs, rfl⟩ := exists_of_map_eq_ok h
    exact length_of_evalItems hxs
  | mapping es =>
    obtain ⟨es', hes, rfl⟩ := exists_of_map_eq_ok h
    exact length_of_evalEntries hes
  | _ =>
    cases h
    rfl

end Live

theorem Value.size_of_kind_string {v : Value} (h : v.kind = .string) : v.size = 0 := by
  cases v with
  | string s => rfl
  | _ => cases h

namespace Bag

theorem read_empty_live (tree : Value) : (⟨.live, tree⟩ : Bag).read "" = Live.eval tree tree := rfl

variable {b : Bag}

/-- The whole value has as many children as the root, if this is no text. -/
theorem size_of_read_empty (hroot : b.tree.kind ≠ .string) {v : Value} (h : b.read "" = .ok v) :
    v.size = b.tree.size := by
  obtain ⟨mode, tree⟩ := b
  cases mode with
  | plain =>
    cases h
    rfl
  | live => exact Live.size_of_evalWith hroot h

theorem count_eq_size_iff {key : String} {v : Value} (h : b.read key = .ok v) :
    b.count key = .ok v.size ↔ (key = "" → b.tree.kind = .string → v.size = 0) := by
  by_cases hkey : key = ""
  · subst hkey
    rw [b.count_of_empty rfl, Except.ok.injEq]
    by_cases hroot : b.tree.kind = .string
    · rw [size_of_kind_string hroot]
      exact ⟨fun hsize _ _ => hsize.symm, fun hsize => (hsize rfl hroot).symm⟩
    · rw [size_of_read_empty hroot h]
      exact iff_of_true rfl fun _ hstring => absurd hstring hroot
  · have hne : key.isEmpty = false := by simpa using hkey
    exact iff_of_true (b.count_of_ok hne h) fun hempty => absurd hempty hkey

/-- The empty key never misses. -/
theorem ne_empty_of_isMiss {key : String} {fault : Fault} (h : b.read key = .error fault)
    (hmiss : fault.isMiss = true) : key ≠ "" := by
  rintro rfl
  obtain ⟨mode, tree⟩ := b
  cases mode with
  | plain => cases h
  | live =>
    have hloud : fault.isMiss = false :=
      (Live.evalWith_neverMisses tree Live.levelLimit tree).of_eq_error h
    cases hmiss.symm.trans hloud

end Bag

/-! ### Roots that are no text -/

namespace Value

theorem kind_ne_string_of_isComposite {v : Value} (h : v.isComposite = true) :
    v.kind ≠ .string := by
  cases v with
  | sequence | mapping => nofun
  | _ => cases h

theorem kind_alter_write {path : Path} {v : Value} (h : path = [] → v.kind ≠ .string)
    (merging : Bool) (t : Value) :
    (t.alter path fun slot => if merging then slot.merge v else v).kind ≠ .string := by
  by_cases hdown : path ≠ [] ∨ v.isComposite = true
  · exact kind_ne_string_of_isComposite (isComposite_alter_write hdown merging t)
  · obtain ⟨hpath, hv⟩ := not_or.1 hdown
    obtain rfl : path = [] := Decidable.not_not.1 hpath
    cases merging with
    | true =>
      show (t.merge v).kind ≠ .string
      rw [merge_of_scalar (Bool.eq_false_iff.2 hv)]
      exact h rfl
    | false => exact h rfl

theorem kind_erase {t : Value} (h : t.kind ≠ .string) (path : Path) :
    (t.erase path).kind ≠ .string := by
  unfold erase
  split
  · exact h
  · cases t with
    | sequence xs =>
      unfold eraseChild
      dsimp only
      split <;> nofun
    | _ => exact h
  · split
    · exact kind_ne_string_of_isComposite (isComposite_alterChild ..)
    · exact h

end Value

namespace Live

/-- Forcing reaches the root only where this is a text. -/
theorem kind_force {tree : Value} (h : tree.kind ≠ .string) (above : Path) :
    (force above tree).result.kind ≠ .string := by
  unfold force
  split
  · next s hs =>
    have habove : above ≠ [] := by
      rintro rfl
      cases hs
      exact h rfl
    split
    · split
      · exact kind_ne_string_of_isComposite (isComposite_alter habove _ _)
      · exact h
    · exact h
  · exact h

theorem kind_clear {tree : Value} (h : tree.kind ≠ .string) (above below : Path) :
    (clear above below tree).result.kind ≠ .string := by
  induction below generalizing above tree with
  | nil => exact h
  | cons segment below ih =>
    refine Edited.result_andThen (P := fun t : Value => t.kind ≠ .string) (kind_force h above) ?_
    exact fun _ => ih (kind_ne_string_of_isComposite (isComposite_alter (by simp) _ _)) _

theorem kind_writeLeaf {tree : Value} (h : tree.kind ≠ .string) {path : Path} {v : Value}
    (hv : path = [] → v.kind ≠ .string) (merging : Bool) :
    (writeLeaf path merging v tree).result.kind ≠ .string := by
  refine Edited.result_andThen (P := fun t : Value => t.kind ≠ .string) (kind_clear h [] path) ?_
  exact fun _ => kind_alter_write hv merging _

/-- An entry goes below its name. -/
theorem keeps_kind :
    Keeps (fun t => t.kind ≠ .string) fun path v => path = [] → v.kind ≠ .string where
  entry _ e _ hpath := absurd hpath (List.concat_ne_nil e.1 _)
  leaf merging hv h := kind_writeLeaf h hv merging

end Live

/-- The change puts no text in the place of the root. -/
def Change.SparesRoot : Change → Prop
  | .set key v | .merge key v => key = "" → v.kind ≠ .string
  | .push _ _ | .erase _ => True

namespace Bag

variable {b : Bag}

theorem kind_write (h : b.tree.kind ≠ .string) {key : String} {v : Value}
    (hv : key = "" → v.kind ≠ .string) (merging : Bool) :
    (b.write key merging v).result.tree.kind ≠ .string := by
  obtain ⟨mode, tree⟩ := b
  have hpath : Path.ofKey key = [] → v.kind ≠ .string := fun hnil => hv (Path.ofKey_eq_nil_iff.1 hnil)
  cases mode with
  | plain => exact kind_alter_write hpath merging tree
  | live => exact Live.keeps_kind.result_write merging v hpath h

theorem kind_apply (h : b.tree.kind ≠ .string) {c : Change} (hc : c.SparesRoot) :
    (b.apply c).result.tree.kind ≠ .string := by
  cases c with
  | set key v => exact kind_write h hc false
  | merge key v => exact kind_write h hc true
  | push key v =>
    have hcomposite : (b.tree.alter (Path.ofKey key) (append v)).isComposite = true := by
      cases hpath : Path.ofKey key with
      | nil => cases b.tree <;> rfl
      | cons segment path => exact isComposite_alterChild ..
    exact kind_ne_string_of_isComposite hcomposite
  | erase key => exact kind_erase h (Path.ofKey key)

/-- The bag after some changes, each of which goes on from where the one before it stopped. -/
def applyAll (b : Bag) (cs : List Change) : Bag := cs.foldl (fun b c => (b.apply c).result) b

theorem kind_applyAll (h : b.tree.kind ≠ .string) {cs : List Change}
    (hcs : ∀ c ∈ cs, c.SparesRoot) : (b.applyAll cs).tree.kind ≠ .string := by
  induction cs generalizing b with
  | nil => exact h
  | cons c cs ih =>
    obtain ⟨hc, hcs⟩ := List.forall_mem_cons.1 hcs
    exact ih (kind_apply h hc) hcs

/-- **What counting agrees with.**  At every key that reads as a value the count is the number of
children of this value, unless the key is empty and the root is a text whose value has children; and
a key that misses counts as nothing.  When the root is no text, changes that put none in its place
never lead to the exception. -/
theorem count_of_read (b : Bag) :
    (∀ key v, b.read key = .ok v →
      (b.count key = .ok v.size ↔ (key = "" → b.tree.kind = .string → v.size = 0))) ∧
    (∀ key fault, b.read key = .error fault → fault.isMiss = true → b.count key = .ok 0) ∧
    (b.tree.kind ≠ .string → ∀ cs, (∀ c ∈ cs, c.SparesRoot) → ∀ key v,
      (b.applyAll cs).read key = .ok v → (b.applyAll cs).count key = .ok v.size) := by
  refine ⟨fun key v h => count_eq_size_iff h, fun key fault h hmiss => ?_,
    fun hroot cs hcs key v h => ?_⟩
  · have hne : key.isEmpty = false := by simpa using ne_empty_of_isMiss h hmiss
    rw [b.count_of_error hne h, hmiss]
    rfl
  · exact (count_eq_size_iff h).2 fun _ hstring => absurd hstring (kind_applyAll hroot hcs)

/-- Entries over the items of the root, and a name that is not among them. -/
theorem count_of_read_entries :
    let cs := [.set "" (.sequence [.int 1]), .push "" (.int 2), .erase "0", .merge "a" .null]
    (empty .live).tree.kind ≠ .string ∧ (∀ c ∈ cs, c.SparesRoot) ∧
      ((empty .live).applyAll cs).read "" = .ok (.mapping [("0", .int 2), ("a", .null)]) ∧
      ((empty .live).applyAll cs).count "" = .ok 2 ∧
      ((empty .live).applyAll cs).read "b" = .error (.noValue "b" "b") ∧
      ((empty .live).applyAll cs).count "b" = .ok 0 := by
  intro cs
  have hroot : (empty .live).tree.kind ≠ .string := by decide
  have hcs : ∀ c ∈ cs, c.SparesRoot := by simp [cs, Change.SparesRoot, Value.kind]
  have hresult : (empty .live).applyAll cs = ⟨.live, .mapping [("0", .int 2), ("a", .null)]⟩ := by
    rfl
  have hread : ((empty .live).applyAll cs).read "" =
      .ok (.mapping [("0", .int 2), ("a", .null)]) := by
    rw [hresult, read_empty_live]
    simp only [Live.eval, Live.evalWith, Live.evalEntries]
    rfl
  have hmiss : ((empty .live).applyAll cs).read "b" = .error (.noValue "b" "b") := by
    rw [hresult]
    rfl
  exact ⟨hroot, hcs, hread, (count_of_read (empty .live)).2.2 hroot cs hcs "" _ hread, hmiss,
    (count_of_read _).2.1 "b" _ hmiss rfl⟩

end Bag

theorem Live.evalString_pair (tree : Value) :
    evalString tree (Text.trim "\x7b% [1, 2] %\x7d") = .ok (.sequence [.int 1, .int 2]) := by
  have htext : Marker.Form.code.text "[1, 2]" = Text.trim "\x7b% [1, 2] %\x7d" := by decide
  have hcode : Code.Stream.ofCode "[1, 2]" =
      [.ok ⟨.symbol .leftBracket, ⟨1, 1⟩⟩, .ok ⟨.int 1, ⟨1, 2⟩⟩, .ok ⟨.symbol .comma, ⟨1, 3⟩⟩,
        .ok ⟨.int 2, ⟨1, 5⟩⟩, .ok ⟨.symbol .rightBracket, ⟨1, 6⟩⟩, .ok ⟨.stop, ⟨1, 6⟩⟩] := rfl
  have hparse : Code.parse "[1, 2]" = .ok (.list [.literal (.int 1), .literal (.int 2)]) := by
    rw [Code.parse, hcode]
    rfl
  rw [evalString, levelLimit, evalText_succ, ← htext, Marker.eval_code _ (by decide) (by decide),
    hparse]
  rfl

/-- The code at the root has two items for its value, and none are counted. -/
theorem Bag.count_of_read_code :
    ∃ b, (empty .live).set "" (.string "\x7b% [1, 2] %\x7d") = .done b ∧
      b.read "" = .ok (.sequence [.int 1, .int 2]) ∧ b.count "" = .ok 0 := by
  refine ⟨⟨.live, .string "\x7b% [1, 2] %\x7d"⟩, rfl, ?_, rfl⟩
  rw [read_empty_live, Live.eval, Live.evalWith, Live.evalString_pair]

end PathBag
