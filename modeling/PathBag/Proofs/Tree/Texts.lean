import PathBag.Proofs.Tree.Fresh

/-!
# The texts of a tree

`v.Each P`: every name and every string leaf of `v` satisfies `P`.  The nodes of such a tree are
such trees, and so is what becomes of it by an edit that brings in nothing else.  The decimals of
positions come in with the edits themselves, as names, where a sequence gives way to a mapping or
its items are added to one.
-/

namespace PathBag

open Decimal

/-! ### Entries -/

namespace Entries

variable {α : Type} {Q : String × α → Prop} {es : Entries α}

theorem mem_of_find? {name : String} {x : α} (h : find? name es = some x) : (name, x) ∈ es := by
  induction es with
  | nil => cases h
  | cons e es ih =>
    obtain ⟨n, y⟩ := e
    unfold find? at h
    split at h
    · next hn =>
      subst hn
      cases h
      exact List.mem_cons_self
    · exact List.mem_cons_of_mem _ (ih h)

theorem forall_upsert {name : String} {fill : α} {f : α → α} (hes : ∀ e ∈ es, Q e)
    (hfill : Q (name, f fill)) (hf : ∀ x, Q (name, x) → Q (name, f x)) :
    ∀ e ∈ upsert name fill f es, Q e := by
  induction es with
  | nil => exact List.forall_mem_singleton.2 hfill
  | cons e es ih =>
    obtain ⟨n, x⟩ := e
    obtain ⟨hx, hes⟩ := List.forall_mem_cons.1 hes
    unfold upsert
    split
    · next hn =>
      subst hn
      exact List.forall_mem_cons.2 ⟨hf x hx, hes⟩
    · exact List.forall_mem_cons.2 ⟨hx, ih hes⟩

theorem forall_insert {name : String} {x : α} (hes : ∀ e ∈ es, Q e) (hx : Q (name, x)) :
    ∀ e ∈ insert name x es, Q e := forall_upsert hes hx fun _ _ => hx

theorem forall_erase {name : String} (hes : ∀ e ∈ es, Q e) : ∀ e ∈ erase name es, Q e :=
  fun e he => hes e (List.mem_filter.1 he).1

end Entries

namespace Value

/-! ### The predicate -/

mutual

/-- Every name and every string leaf satisfies `P`. -/
def Each (P : String → Prop) : Value → Prop
  | string s => P s
  | sequence xs => EachItem P xs
  | mapping es => EachEntry P es
  | _ => True

/-- Every name and every string leaf of the items satisfies `P`. -/
def EachItem (P : String → Prop) : List Value → Prop
  | [] => True
  | x :: xs => x.Each P ∧ EachItem P xs

/-- Every name and every string leaf of the entries satisfies `P`. -/
def EachEntry (P : String → Prop) : List (String × Value) → Prop
  | [] => True
  | (name, x) :: es => (P name ∧ x.Each P) ∧ EachEntry P es

end

section Decide

variable (P : String → Prop) [DecidablePred P]

mutual

/-- Whether every text satisfies `P` can be computed. -/
def decideEach : (v : Value) → Decidable (v.Each P)
  | string s => inferInstanceAs (Decidable (P s))
  | sequence xs => decideEachItem xs
  | mapping es => decideEachEntry es
  | null | bool _ | int _ | float _ => .isTrue trivial

/-- Whether every text of the items satisfies `P` can be computed. -/
def decideEachItem : (xs : List Value) → Decidable (EachItem P xs)
  | [] => .isTrue trivial
  | x :: xs => @instDecidableAnd _ _ (decideEach x) (decideEachItem xs)

/-- Whether every text of the entries satisfies `P` can be computed. -/
def decideEachEntry : (es : List (String × Value)) → Decidable (EachEntry P es)
  | [] => .isTrue trivial
  | (_, x) :: es =>
    @instDecidableAnd _ _ (@instDecidableAnd _ _ _ (decideEach x)) (decideEachEntry es)

end

instance (v : Value) : Decidable (v.Each P) := decideEach P v

end Decide

section Each

variable {P : String → Prop}

theorem eachItem_iff {xs : List Value} : EachItem P xs ↔ ∀ x ∈ xs, x.Each P := by
  induction xs with
  | nil => simp [EachItem]
  | cons x xs ih => simp [EachItem, ih]

theorem eachEntry_iff {es : Entries Value} : EachEntry P es ↔ ∀ e ∈ es, P e.1 ∧ e.2.Each P := by
  induction es with
  | nil => simp [EachEntry]
  | cons e es ih => simp [EachEntry, ih]

@[simp] theorem each_string (s : String) : (string s).Each P ↔ P s := by simp [Each]

@[simp] theorem each_sequence (xs : List Value) :
    (sequence xs).Each P ↔ ∀ x ∈ xs, x.Each P := by rw [Each, eachItem_iff]

@[simp] theorem each_mapping (es : Entries Value) :
    (mapping es).Each P ↔ ∀ e ∈ es, P e.1 ∧ e.2.Each P := by rw [Each, eachEntry_iff]

@[simp] theorem each_empty : empty.Each P := trivial

/-! ### Nodes -/

theorem Each.child? {v w : Value} (hv : v.Each P) {segment : String}
    (h : v.child? segment = some w) : w.Each P := by
  cases v with
  | mapping es => exact ((each_mapping es).1 hv _ (Entries.mem_of_find? h)).2
  | sequence xs =>
    obtain ⟨i, -, hi⟩ := Option.bind_eq_some_iff.1 h
    exact (each_sequence xs).1 hv w (List.mem_of_getElem? hi)
  | _ => cases h

theorem Each.node? {v w : Value} (hv : v.Each P) {path : Path} (h : v.node? path = some w) :
    w.Each P := by
  induction path generalizing v with
  | nil =>
    cases h
    exact hv
  | cons segment path ih =>
    obtain ⟨child, hchild, hw⟩ := Option.bind_eq_some_iff.1 h
    exact ih (hv.child? hchild) hw

/-! ### Edits -/

theorem Each.append {v x : Value} (hv : v.Each P) (hx : x.Each P) : (append x v).Each P := by
  cases v with
  | sequence xs =>
    rw [each_sequence] at hv
    rw [Value.append, each_sequence, List.forall_mem_append]
    exact ⟨hv, by simpa using hx⟩
  | _ => simpa [Value.append] using hx

theorem Each.eraseChild {v : Value} (hv : v.Each P) (segment : String) :
    (v.eraseChild segment).Each P := by
  cases v with
  | mapping es => exact (each_mapping _).2 (Entries.forall_erase ((each_mapping es).1 hv))
  | sequence xs =>
    rw [Value.eraseChild]
    split
    · exact (each_sequence _).2 fun x hx => (each_sequence xs).1 hv x (List.mem_of_mem_eraseIdx hx)
    · exact hv
  | _ => exact hv

section Positions

variable (hdec : ∀ n, P (writeNat n))

include hdec

theorem each_indexedFrom {xs : List Value} (hxs : ∀ x ∈ xs, x.Each P) (start : Nat) :
    ∀ e ∈ indexedFrom start xs, P e.1 ∧ e.2.Each P := by
  induction xs generalizing start with
  | nil => exact List.forall_mem_nil _
  | cons x xs ih =>
    obtain ⟨hx, hxs⟩ := List.forall_mem_cons.1 hxs
    exact List.forall_mem_cons.2 ⟨⟨hdec start, hx⟩, ih hxs (start + 1)⟩

theorem Each.promote {v : Value} (hv : v.Each P) : v.promote.Each P := by
  cases v with
  | sequence xs => exact (each_mapping _).2 (each_indexedFrom hdec ((each_sequence xs).1 hv) 0)
  | _ => exact hv

theorem Each.alterChild {v fill : Value} {segment : String} {f : Value → Value} (hv : v.Each P)
    (hs : P segment) (hfill : (f fill).Each P) (hf : ∀ w, w.Each P → (f w).Each P) :
    (v.alterChild segment fill f).Each P := by
  have hupsert {es : Entries Value} (hes : (mapping es).Each P) :
      (mapping (Entries.upsert segment fill f es)).Each P := by
    rw [each_mapping] at hes ⊢
    exact Entries.forall_upsert hes ⟨hs, hfill⟩ fun w hw => ⟨hs, hf w hw.2⟩
  cases v with
  | mapping es => exact hupsert hv
  | sequence xs =>
    have hxs := (each_sequence xs).1 hv
    cases h : position? segment (xs.length + 1) with
    | none =>
      rw [alterChild_sequence_of_none _ _ _ h]
      exact hupsert (hv.promote hdec)
    | some i =>
      obtain ⟨hi, rfl⟩ := position?_eq_some_iff.1 h
      rw [alterChild_sequence_of_le _ _ (Nat.le_of_lt_succ hi), each_sequence]
      split
      · intro x hx
        obtain ⟨j, hj⟩ := List.mem_iff_getElem?.1 hx
        rw [List.getElem?_modify, Option.map_eq_map, Option.map_eq_some_iff] at hj
        obtain ⟨y, hy, rfl⟩ := hj
        have hyP := hxs y (List.mem_of_getElem? hy)
        split
        · exact hf y hyP
        · exact hyP
      · rw [List.forall_mem_append]
        exact ⟨hxs, by simpa using hfill⟩
  | _ => exact hupsert ((each_mapping ([] : Entries Value)).2 (List.forall_mem_nil _))

theorem Each.alter {v : Value} {path : Path} {f : Value → Value} (hv : v.Each P)
    (hpath : ∀ s ∈ path, P s) (hf : ∀ w, w.Each P → (f w).Each P) : (v.alter path f).Each P := by
  induction path generalizing v with
  | nil => exact hf v hv
  | cons s path ih =>
    obtain ⟨hs, hpath⟩ := List.forall_mem_cons.1 hpath
    rw [alter_cons]
    exact hv.alterChild hdec hs (ih each_empty hpath) fun w hw => ih hw hpath

theorem Each.erase {v : Value} {path : Path} (hv : v.Each P) (hpath : ∀ s ∈ path, P s) :
    (v.erase path).Each P := by
  induction path generalizing v with
  | nil => exact hv
  | cons s path ih =>
    obtain ⟨hs, hpath⟩ := List.forall_mem_cons.1 hpath
    cases path with
    | nil => exact hv.eraseChild s
    | cons next path =>
      unfold Value.erase
      split
      · exact hv.alterChild hdec hs (ih each_empty hpath) fun w hw => ih hw hpath
      · exact hv

end Positions

/-! ### Merging -/

theorem each_addItems (hdec : ∀ n, P (writeNat n)) {xs : List Value} (hxs : ∀ x ∈ xs, x.Each P)
    {es : Entries Value} (hes : ∀ e ∈ es, P e.1 ∧ e.2.Each P) :
    ∀ e ∈ addItems es xs, P e.1 ∧ e.2.Each P := by
  induction xs generalizing es with
  | nil => exact hes
  | cons x xs ih =>
    obtain ⟨hx, hxs⟩ := List.forall_mem_cons.1 hxs
    obtain ⟨n, hn⟩ := (nextName_freshName es).exists_writeNat
    exact ih hxs (Entries.forall_insert hes ⟨hn ▸ hdec n, hx⟩)

mutual

theorem Each.merge (hdec : ∀ n, P (writeNat n)) : ∀ {upper base : Value}, base.Each P →
    upper.Each P → (base.merge upper).Each P
  | .mapping es, base, hbase, hupper => by
    unfold Value.merge
    split
    · next b bs h =>
      have hb := hbase.promote hdec
      rw [h] at hb
      rw [each_mapping] at hb hupper ⊢
      exact each_mergeEntries hdec hupper hb
    · exact hupper
  | .sequence xs, base, hbase, hupper => by
    unfold Value.merge
    split
    · rw [each_sequence] at hbase hupper ⊢
      exact List.forall_mem_append.2 ⟨hbase, hupper⟩
    · rw [each_mapping] at hbase ⊢
      exact each_addItems hdec ((each_sequence xs).1 hupper) hbase
    · exact hupper
  | .null, _, _, h | .bool _, _, _, h | .int _, _, _, h | .float _, _, _, h
  | .string _, _, _, h => h

theorem each_mergeEntries (hdec : ∀ n, P (writeNat n)) :
    ∀ {es : List (String × Value)} {base : Entries Value},
    (∀ e ∈ es, P e.1 ∧ e.2.Each P) → (∀ e ∈ base, P e.1 ∧ e.2.Each P) →
    ∀ e ∈ mergeEntries base es, P e.1 ∧ e.2.Each P
  | [], _, _, hbase => hbase
  | (name, v) :: es, base, hes, hbase => by
    obtain ⟨⟨hname, hv⟩, hes⟩ := List.forall_mem_cons.1 hes
    unfold mergeEntries
    refine each_mergeEntries hdec hes (Entries.forall_insert hbase ⟨hname, ?_⟩)
    split
    · next x h => exact Each.merge hdec (hbase _ (Entries.mem_of_find? h)).2 hv
    · exact hv

end

end Each

end Value

end PathBag
