import PathBag.Json.Reader
import PathBag.Proofs.Tree.Texts

/-!
# Nested composites

`v.depth`: how deep composites nest in a value.  Reading with some levels gives values that nest no
deeper than that (`depth_le_of_readValue`), so a document nests at most as deep as the limit allows
(`depth_le_of_read`).
-/

namespace PathBag

namespace Value

mutual

/-- How deep composites nest in a value, the value itself counted. -/
def depth : Value → Nat
  | sequence xs => depthItems xs + 1
  | mapping es => depthEntries es + 1
  | _ => 0

/-- How deep composites nest in items. -/
def depthItems : List Value → Nat
  | [] => 0
  | x :: xs => max x.depth (depthItems xs)

/-- How deep composites nest in the contents of entries. -/
def depthEntries : List (String × Value) → Nat
  | [] => 0
  | (_, x) :: es => max x.depth (depthEntries es)

end

theorem depth_sequence_le_iff {xs : List Value} {n : Nat} :
    (sequence xs).depth ≤ n + 1 ↔ ∀ x ∈ xs, x.depth ≤ n := by
  rw [depth, Nat.succ_le_succ_iff]
  induction xs with
  | nil => simp [depthItems]
  | cons x xs ih => rw [depthItems, Nat.max_le, ih, List.forall_mem_cons]

theorem depth_mapping_le_iff {es : Entries Value} {n : Nat} :
    (mapping es).depth ≤ n + 1 ↔ ∀ e ∈ es, e.2.depth ≤ n := by
  rw [depth, Nat.succ_le_succ_iff]
  induction es with
  | nil => simp [depthEntries]
  | cons e es ih => rw [depthEntries, Nat.max_le, ih, List.forall_mem_cons]

theorem depth_of_not_isComposite {v : Value} (h : v.isComposite = false) : v.depth = 0 := by
  cases v <;> first | rfl | cases h

end Value

/-- What holds of all pairs holds of the entries that they give. -/
theorem Entries.forall_ofList {α : Type} {Q : String × α → Prop} {pairs : List (String × α)}
    (h : ∀ e ∈ pairs, Q e) : ∀ e ∈ ofList pairs, Q e := by
  have hfold : ∀ (pairs : List (String × α)) (es : Entries α), (∀ e ∈ pairs, Q e) →
      (∀ e ∈ es, Q e) → ∀ e ∈ pairs.foldl (fun es e => insert e.1 e.2 es) es, Q e := by
    intro pairs
    induction pairs with
    | nil => exact fun _ _ hes => hes
    | cons e pairs ih =>
      intro es hpairs hes
      obtain ⟨he, hpairs⟩ := List.forall_mem_cons.1 hpairs
      exact ih _ hpairs (forall_insert hes he)
  exact hfold pairs [] h fun _ he => absurd he List.not_mem_nil

namespace Json

/-- What holds of each thing that is read holds of all of them. -/
theorem forall_of_readMany {α : Type} {reader : List Char → Option (α × List Char)} {P : α → Prop}
    (hread : ∀ cs x rest, reader cs = some (x, rest) → P x) {close : Char} {fuel : Nat}
    {cs rest : List Char} {xs : List α} (h : readMany reader close fuel cs = some (xs, rest)) :
    ∀ x ∈ xs, P x := by
  induction fuel generalizing cs xs with
  | zero => cases h
  | succ fuel ih =>
    rw [readMany] at h
    obtain ⟨⟨x, tail⟩, hx, h⟩ := Option.bind_eq_some_iff.1 h
    dsimp only at h
    split at h
    · obtain ⟨⟨xs, tail⟩, hxs, h⟩ := Option.bind_eq_some_iff.1 h
      cases h
      exact List.forall_mem_cons.2 ⟨hread _ _ _ hx, ih hxs⟩
    · split at h
      · cases h
        exact List.forall_mem_singleton.2 (hread _ _ _ hx)
      · cases h
    · cases h

theorem forall_of_readEntry {reader : List Char → Option (Value × List Char)} {P : Value → Prop}
    (hread : ∀ cs v rest, reader cs = some (v, rest) → P v) (cs : List Char) (e : String × Value)
    (rest : List Char) (h : readEntry reader cs = some (e, rest)) : P e.2 := by
  rw [readEntry] at h
  split at h
  · obtain ⟨⟨name, tail⟩, -, h⟩ := Option.bind_eq_some_iff.1 h
    dsimp only at h
    split at h
    · obtain ⟨⟨v, tail⟩, hv, h⟩ := Option.bind_eq_some_iff.1 h
      cases h
      exact hread _ _ _ hv
    · cases h
  · cases h

theorem isComposite_of_numberValue {negative : Bool} {whole : List Char}
    {places : Option (List Char)} {exponent : Option Int} {v : Value}
    (h : numberValue negative whole places exponent = some v) : v.isComposite = false := by
  unfold numberValue at h
  dsimp only at h
  split at h
  · cases h
    rfl
  · obtain ⟨x, -, rfl⟩ := Option.map_eq_some_iff.1 h
    rfl

theorem isComposite_of_readScalar {cs rest : List Char} {v : Value}
    (h : readScalar cs = some (v, rest)) : v.isComposite = false := by
  unfold readScalar at h
  split at h
  case h_1 | h_2 | h_3 | h_4 =>
    obtain ⟨_, -, h⟩ := Option.map_eq_some_iff.1 h
    cases h
    rfl
  case h_5 =>
    obtain ⟨⟨whole, cs⟩, -, h⟩ := Option.bind_eq_some_iff.1 h
    obtain ⟨⟨places, cs⟩, -, h⟩ := Option.bind_eq_some_iff.1 h
    obtain ⟨⟨exponent, cs⟩, -, h⟩ := Option.bind_eq_some_iff.1 h
    obtain ⟨w, hw, h⟩ := Option.bind_eq_some_iff.1 h
    cases h
    exact isComposite_of_numberValue hw

theorem depth_le_of_readValue {levels : Nat} {cs rest : List Char} {v : Value}
    (h : readValue levels cs = some (v, rest)) : v.depth ≤ levels := by
  induction levels generalizing cs rest v with
  | zero => exact Nat.le_of_eq (Value.depth_of_not_isComposite (isComposite_of_readScalar h))
  | succ levels ih =>
    have hread : ∀ cs v rest, readValue levels cs = some (v, rest) → v.depth ≤ levels :=
      fun _ _ _ h => ih h
    rw [readValue] at h
    split at h
    · rw [readSequence] at h
      split at h
      · cases h
        exact Value.depth_sequence_le_iff.2 fun _ hx => absurd hx List.not_mem_nil
      · obtain ⟨⟨xs, tail⟩, hxs, h⟩ := Option.map_eq_some_iff.1 h
        cases h
        exact Value.depth_sequence_le_iff.2 (forall_of_readMany hread hxs)
    · rw [readMapping] at h
      split at h
      · cases h
        exact Value.depth_mapping_le_iff.2 fun _ hx => absurd hx List.not_mem_nil
      · obtain ⟨⟨es, tail⟩, hes, h⟩ := Option.map_eq_some_iff.1 h
        cases h
        exact Value.depth_mapping_le_iff.2
          (Entries.forall_ofList (forall_of_readMany (forall_of_readEntry hread) hes))
    · rw [Value.depth_of_not_isComposite (isComposite_of_readScalar h)]
      exact Nat.zero_le _

/-- A document nests composites at most as deep as the limit allows. -/
theorem depth_le_of_read {text : String} {v : Value} (h : read text = some v) :
    v.depth ≤ nestingLimit := by
  rw [read] at h
  split at h
  · next w rest hread =>
    split at h
    · cases h
      exact depth_le_of_readValue hread
    · cases h
  · cases h

end Json

end PathBag
