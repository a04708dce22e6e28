import Mathlib.Algebra.GroupWithZero.Nat
import PathBag.Proofs.Tree.Texts

/-!
# Weights of trees

The names of a tree, at all levels, weigh together what each of them weighs.  An edit adds at most
the weights of the names on its path, and merging adds up at most: nothing that a tree is edited or
merged with brings in other names, but for the decimals of positions, which are to weigh nothing
here.
-/

namespace PathBag

open Decimal

namespace Value

mutual

/-- The weights of all names in a value together. -/
def weight (w : String → Nat) : Value → Nat
  | sequence xs => weightItems w xs
  | mapping es => weightEntries w es
  | _ => 0

/-- The weights of all names in the items together. -/
def weightItems (w : String → Nat) : List Value → Nat
  | [] => 0
  | x :: xs => x.weight w + weightItems w xs

/-- The weights of the names of the entries and of all names in their contents together. -/
def weightEntries (w : String → Nat) : List (String × Value) → Nat
  | [] => 0
  | (name, x) :: es => w name + x.weight w + weightEntries w es

end

variable {w : String → Nat}

@[simp] theorem weight_sequence (xs : List Value) : (sequence xs).weight w = weightItems w xs := by
  rw [weight]

@[simp] theorem weight_mapping (es : Entries Value) :
    (mapping es).weight w = weightEntries w es := by
  rw [weight]

@[simp] theorem weight_empty : empty.weight w = 0 := by
  rw [empty, weight_mapping, weightEntries]

theorem weightItems_append (xs ys : List Value) :
    weightItems w (xs ++ ys) = weightItems w xs + weightItems w ys := by
  induction xs with
  | nil => simp [weightItems]
  | cons x xs ih =>
    rw [List.cons_append, weightItems, weightItems, ih]
    omega

theorem weightItems_modify_le {f : Value → Value} {d : Nat}
    (hf : ∀ x, (f x).weight w ≤ x.weight w + d) (xs : List Value) (i : Nat) :
    weightItems w (xs.modify i f) ≤ weightItems w xs + d := by
  induction xs generalizing i with
  | nil => simp [weightItems]
  | cons x xs ih =>
    cases i with
    | zero =>
      have := hf x
      rw [List.modify_zero_cons, weightItems, weightItems]
      omega
    | succ i =>
      have := ih i
      rw [List.modify_succ_cons, weightItems, weightItems]
      omega

/-! ### One entry -/

theorem weightEntries_upsert_of_some {name : String} {x : Value} {es : Entries Value}
    (h : es.find? name = some x) (fill : Value) (f : Value → Value) :
    weightEntries w (es.upsert name fill f) + x.weight w =
      weightEntries w es + (f x).weight w := by
  induction es with
  | nil => cases h
  | cons e es ih =>
    obtain ⟨n, y⟩ := e
    unfold Entries.find? at h
    unfold Entries.upsert
    by_cases hn : n = name
    · rw [if_pos hn] at h
      cases h
      rw [if_pos hn, weightEntries, weightEntries]
      omega
    · rw [if_neg hn] at h
      have := ih h
      rw [if_neg hn, weightEntries, weightEntries]
      omega

theorem weightEntries_upsert_of_none {name : String} {es : Entries Value}
    (h : es.find? name = none) (fill : Value) (f : Value → Value) :
    weightEntries w (es.upsert name fill f) =
      weightEntries w es + w name + (f fill).weight w := by
  induction es with
  | nil => simp [Entries.upsert, weightEntries]
  | cons e es ih =>
    obtain ⟨n, y⟩ := e
    unfold Entries.find? at h
    unfold Entries.upsert
    by_cases hn : n = name
    · rw [if_pos hn] at h
      cases h
    · rw [if_neg hn] at h
      have := ih h
      rw [if_neg hn, weightEntries, weightEntries]
      omega

/-- Content that weighs `d` more than what it takes the place of adds `d` and the name. -/
theorem weightEntries_upsert_le {name : String} {fill : Value} {f : Value → Value} {d : Nat}
    (hf : ∀ x, (f x).weight w ≤ x.weight w + d) (hfill : (f fill).weight w ≤ d)
    (es : Entries Value) :
    weightEntries w (es.upsert name fill f) ≤ weightEntries w es + w name + d := by
  cases h : es.find? name with
  | none =>
    rw [weightEntries_upsert_of_none h]
    omega
  | some x =>
    have := weightEntries_upsert_of_some (w := w) h fill f
    have := hf x
    omega

theorem weightEntries_insert_le (name : String) (x : Value) (es : Entries Value) :
    weightEntries w (es.insert name x) ≤ weightEntries w es + w name + x.weight w :=
  weightEntries_upsert_le (fun y => Nat.le_add_left _ (y.weight w)) (Nat.le_refl _) es

/-! ### Edits -/

section Decimals

variable (hdec : ∀ n, w (writeNat n) = 0)
include hdec

/-- As the mapping of its positions a sequence weighs the same. -/
theorem weightEntries_indexedFrom (start : Nat) (xs : List Value) :
    weightEntries w (indexedFrom start xs) = weightItems w xs := by
  induction xs generalizing start with
  | nil => simp [indexedFrom, weightEntries, weightItems]
  | cons x xs ih => rw [indexedFrom, weightEntries, weightItems, hdec, ih, Nat.zero_add]

theorem weight_alterChild_le {v fill : Value} {segment : String} {f : Value → Value} {d : Nat}
    (hf : ∀ x, (f x).weight w ≤ x.weight w + d) (hfill : (f fill).weight w ≤ d) :
    (v.alterChild segment fill f).weight w ≤ v.weight w + w segment + d := by
  cases v with
  | mapping es =>
    rw [alterChild, weight_mapping, weight_mapping]
    exact weightEntries_upsert_le hf hfill es
  | sequence xs =>
    cases hpos : position? segment (xs.length + 1) with
    | none =>
      rw [alterChild_sequence_of_none _ _ _ hpos, alterChild, weight_mapping, weight_sequence,
        ← weightEntries_indexedFrom hdec 0 xs]
      exact weightEntries_upsert_le hf hfill _
    | some i =>
      obtain ⟨hi, rfl⟩ := position?_eq_some_iff.1 hpos
      rw [alterChild_sequence_of_le _ _ (Nat.le_of_lt_succ hi), weight_sequence, weight_sequence]
      split
      · have := weightItems_modify_le hf xs i
        omega
      · rw [weightItems_append, weightItems, weightItems]
        omega
  | _ =>
    change (mapping [(segment, f fill)]).weight w ≤ _
    rw [weight_mapping, weightEntries, weightEntries]
    omega

theorem weight_alter_le {f : Value → Value} {d : Nat}
    (hf : ∀ x, (f x).weight w ≤ x.weight w + d) (path : Path) (v : Value) :
    (v.alter path f).weight w ≤ v.weight w + (path.map w).sum + d := by
  induction path generalizing v with
  | nil =>
    have := hf v
    rw [alter_nil, List.map_nil, List.sum_nil]
    omega
  | cons segment path ih =>
    have hstep (x : Value) : (x.alter path f).weight w ≤ x.weight w + ((path.map w).sum + d) := by
      have := ih x
      omega
    have hfill : (empty.alter path f).weight w ≤ (path.map w).sum + d := by
      have := hstep empty
      rwa [weight_empty, Nat.zero_add] at this
    have halter : (v.alterChild segment empty (alter path f)).weight w ≤
        v.weight w + w segment + ((path.map w).sum + d) := weight_alterChild_le hdec hstep hfill
    rw [alter_cons, List.map_cons, List.sum_cons]
    omega

/-! ### Merging -/

theorem weightEntries_addItems_le (xs : List Value) (es : Entries Value) :
    weightEntries w (addItems es xs) ≤ weightEntries w es + weightItems w xs := by
  induction xs generalizing es with
  | nil => simp [addItems, weightItems]
  | cons x xs ih =>
    obtain ⟨n, hn⟩ := (nextName_freshName es).exists_writeNat
    have hinsert := weightEntries_insert_le (w := w) (freshName es) x es
    have hrest := ih (es.insert (freshName es) x)
    rw [hn, hdec] at hinsert
    rw [addItems, weightItems, hn]
    rw [hn] at hrest
    omega

theorem weightEntries_promote {v : Value} {es : Entries Value} (h : v.promote = mapping es) :
    v.weight w = weightEntries w es := by
  cases v with
  | mapping es' =>
    cases h
    rw [weight_mapping]
  | sequence xs =>
    cases h
    rw [weight_sequence, indexed, weightEntries_indexedFrom hdec]
  | _ => cases h

end Decimals

mutual

/-- Merged values weigh no more than the two of them. -/
theorem weight_merge_le (hdec : ∀ n, w (writeNat n) = 0) : ∀ base upper : Value,
    (base.merge upper).weight w ≤ base.weight w + upper.weight w
  | base, .mapping es => by
    unfold merge
    split
    · next b bs hbs =>
      rw [weight_mapping, weight_mapping, weightEntries_promote hdec hbs]
      exact weight_mergeEntries_le hdec (b :: bs) es
    · omega
  | base, .sequence xs => by
    unfold merge
    split
    · rw [weight_sequence, weight_sequence, weight_sequence]
      exact Nat.le_of_eq (weightItems_append _ _)
    · rw [weight_mapping, weight_mapping, weight_sequence]
      exact weightEntries_addItems_le hdec xs _
    · omega
  | _, .null | _, .bool _ | _, .int _ | _, .float _ | _, .string _ => by
    simp [merge, weight]

theorem weight_mergeEntries_le (hdec : ∀ n, w (writeNat n) = 0) :
    ∀ (base : Entries Value) (es : List (String × Value)), weightEntries w (mergeEntries base es) ≤
      weightEntries w base + weightEntries w es
  | base, [] => by simp [mergeEntries, weightEntries]
  | base, (name, v) :: es => by
    rw [mergeEntries, weightEntries]
    cases h : base.find? name with
    | none =>
      have hinsert := weightEntries_insert_le (w := w) name v base
      have hrest := weight_mergeEntries_le hdec (base.insert name v) es
      dsimp only
      omega
    | some x =>
      have hinsert := weightEntries_upsert_of_some (w := w) h (merge x v) fun _ => merge x v
      have hmerge := weight_merge_le hdec x v
      have hrest := weight_mergeEntries_le hdec (base.insert name (merge x v)) es
      dsimp only
      unfold Entries.insert at hrest ⊢
      omega

end

end Value

end PathBag
