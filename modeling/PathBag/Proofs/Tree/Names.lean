import PathBag.Value.Tree

/-!
# The names of children

What a segment names below a value, and what editing one child does to the names.  A sequence
answers to the canonical decimals of its positions and to nothing else, so the mapping that it
gives way to answers in the same way.

* `child?_alterChild_self`, `child?_alterChild_of_ne`: only the edited child changes;
* `childNames_alterChild`: the names stay in order, and at most one new one comes last.
-/

namespace PathBag

/-! ### Canonical decimals -/

namespace Decimal

theorem isDigit_eq (c : Char) : isDigit c = c.isDigit := by
  simp [isDigit, Char.isDigit, Char.le_def]

theorem isDigit_of_mem_toDigits {n : Nat} {c : Char} (hc : c ∈ Nat.toDigits 10 n) :
    isDigit c = true := by
  rw [isDigit_eq]
  exact Nat.isDigit_of_mem_toDigits (by decide) (by decide) hc

theorem readDigits_toDigits (n : Nat) : readDigits (Nat.toDigits 10 n) = some n := by
  have hall : (Nat.toDigits 10 n).all isDigit = true :=
    List.all_eq_true.2 fun c hc => isDigit_of_mem_toDigits hc
  simp [readDigits, hall, Nat.toDigits_ne_nil, Nat.ofDigitChars_ten_toDigits]

theorem readNat_writeNat (n : Nat) : readNat (writeNat n).toList = some n := by
  rw [writeNat, String.toList_ofList]
  obtain ⟨c, cs, hcs⟩ := List.exists_cons_of_ne_nil (Nat.toDigits_ne_nil (n := n) (b := 10))
  have hplus : c ≠ '+' := by
    rintro rfl
    have := isDigit_of_mem_toDigits (n := n) (c := '+') (by simp [hcs])
    exact absurd this (by decide)
  have hread := readDigits_toDigits n
  rw [hcs] at hread ⊢
  simpa [readNat, hplus] using hread

@[simp] theorem writeNat_inj {m n : Nat} : writeNat m = writeNat n ↔ m = n := by
  refine ⟨fun h => ?_, fun h => h ▸ rfl⟩
  have := readNat_writeNat m
  rw [h, readNat_writeNat] at this
  exact (Option.some.inj this).symm

end Decimal

open Decimal

/-! ### Entries -/

namespace Entries

variable {α : Type}

@[simp] theorem names_nil : names ([] : Entries α) = [] := rfl

@[simp] theorem names_cons (e : String × α) (es : Entries α) :
    names (e :: es) = e.1 :: names es := rfl

@[simp] theorem names_append (es fs : Entries α) : names (es ++ fs) = names es ++ names fs :=
  List.map_append

theorem names_upsert (name : String) (fill : α) (f : α → α) (es : Entries α) :
    (upsert name fill f es).names = es.names ++ if name ∈ es.names then [] else [name] := by
  induction es with
  | nil => simp [upsert]
  | cons e es ih =>
    by_cases h : e.1 = name
    · simp [upsert, h]
    · simp [upsert, h, ih, Ne.symm h]

theorem find?_eq_none_iff {name : String} {es : Entries α} :
    es.find? name = none ↔ name ∉ es.names := by
  induction es with
  | nil => simp
  | cons e es ih =>
    by_cases h : e.1 = name
    · simp [find?, h]
    · simp [find?, h, ih, Ne.symm h]

theorem upsert_of_notMem {name : String} {es : Entries α} (h : name ∉ es.names) (fill : α)
    (f : α → α) : upsert name fill f es = es ++ [(name, f fill)] := by
  induction es with
  | nil => rfl
  | cons e es ih =>
    rw [names_cons, List.mem_cons, not_or] at h
    rw [upsert, if_neg (Ne.symm h.1), ih h.2]
    rfl

theorem upsert_upsert (name : String) (fill : α) (f g : α → α) (es : Entries α) :
    upsert name fill f (upsert name fill g es) = upsert name fill (f ∘ g) es := by
  induction es with
  | nil => simp [upsert]
  | cons e es ih => by_cases h : e.1 = name <;> simp [upsert, h, ih]

theorem upsert_id {name : String} {x : α} {es : Entries α} (h : es.find? name = some x)
    (fill : α) : upsert name fill id es = es := by
  induction es with
  | nil => cases h
  | cons e es ih =>
    unfold find? at h
    unfold upsert
    split
    · rfl
    · next hn =>
      rw [if_neg hn] at h
      rw [ih h]

theorem upsert_congr {name : String} {fill : α} {f g : α → α} {es : Entries α}
    (h : f ((es.find? name).getD fill) = g ((es.find? name).getD fill)) :
    upsert name fill f es = upsert name fill g es := by
  induction es with
  | nil => exact congrArg (fun x => [(name, x)]) h
  | cons e es ih =>
    by_cases hn : e.1 = name
    · simp only [find?, hn, if_true, Option.getD_some] at h
      simp only [upsert, hn, if_true, h]
    · simp only [find?, hn, if_false] at h
      simp only [upsert, hn, if_false, ih h]

end Entries

namespace Value

/-! ### Positions -/

theorem position?_eq_some_iff {segment : String} {bound i : Nat} :
    position? segment bound = some i ↔ i < bound ∧ segment = writeNat i := by
  simp only [position?, Option.filter_eq_some_iff, Bool.and_eq_true, decide_eq_true_eq, beq_iff_eq]
  constructor
  · rintro ⟨-, hi, rfl⟩
    exact ⟨hi, rfl⟩
  · rintro ⟨hi, rfl⟩
    exact ⟨readNat_writeNat i, hi, rfl⟩

theorem position?_writeNat (i bound : Nat) :
    position? (writeNat i) bound = if i < bound then some i else none := by
  split
  · next h => exact position?_eq_some_iff.2 ⟨h, rfl⟩
  · next h =>
    refine Option.eq_none_iff_forall_not_mem.2 fun j hj => ?_
    obtain ⟨hlt, heq⟩ := position?_eq_some_iff.1 hj
    exact h (writeNat_inj.1 heq ▸ hlt)

theorem position?_eq_none_of_forall_ne {segment : String} (h : ∀ i, segment ≠ writeNat i)
    (bound : Nat) : position? segment bound = none :=
  Option.eq_none_iff_forall_not_mem.2 fun i hi => h i (position?_eq_some_iff.1 hi).2

@[simp] theorem child?_sequence_writeNat (i : Nat) (xs : List Value) :
    (sequence xs).child? (writeNat i) = xs[i]? := by
  simp only [child?, position?_writeNat]
  split
  · rfl
  · next h => simp [List.getElem?_eq_none (Nat.le_of_not_lt h)]

theorem child?_sequence_of_forall_ne {segment : String} (h : ∀ i, segment ≠ writeNat i)
    (xs : List Value) : (sequence xs).child? segment = none := by
  simp [child?, position?_eq_none_of_forall_ne h]

theorem find?_indexedFrom_of_forall_ne {segment : String} {start : Nat}
    (h : ∀ i, start ≤ i → segment ≠ writeNat i) (xs : List Value) :
    Entries.find? segment (indexedFrom start xs) = none := by
  induction xs generalizing start with
  | nil => rfl
  | cons x xs ih =>
    have hne : writeNat start ≠ segment := (h start (Nat.le_refl _)).symm
    simp only [indexedFrom, Entries.find?, hne, if_false]
    exact ih fun i hi => h i (by omega)

theorem find?_indexedFrom_writeNat (start i : Nat) (xs : List Value) :
    Entries.find? (writeNat (start + i)) (indexedFrom start xs) = xs[i]? := by
  induction xs generalizing start i with
  | nil => rfl
  | cons x xs ih =>
    cases i with
    | zero => simp [indexedFrom, Entries.find?]
    | succ i =>
      have := ih (start + 1) i
      rw [show start + 1 + i = start + (i + 1) by omega] at this
      simpa [indexedFrom, Entries.find?] using this

/-- The mapping of the positions of a sequence answers to the same names. -/
theorem child?_indexed (segment : String) (xs : List Value) :
    (mapping (indexed xs)).child? segment = (sequence xs).child? segment := by
  by_cases h : ∃ i, segment = writeNat i
  · obtain ⟨i, rfl⟩ := h
    rw [child?_sequence_writeNat]
    simpa [child?, indexed] using find?_indexedFrom_writeNat 0 i xs
  · have h' : ∀ i, segment ≠ writeNat i := fun i hi => h ⟨i, hi⟩
    rw [child?_sequence_of_forall_ne h']
    exact find?_indexedFrom_of_forall_ne (fun i _ => h' i) xs

/-- What a segment names below a sequence, by cases on whether it is a position. -/
theorem canonical_or (segment : String) :
    (∃ i, segment = writeNat i) ∨ ∀ i, segment ≠ writeNat i := by
  by_cases h : ∃ i, segment = writeNat i
  · exact .inl h
  · exact .inr fun i hi => h ⟨i, hi⟩

/-! ### One child edited -/

section Edit

variable (v : Value) (segment : String) (fill : Value) (f : Value → Value)

/-- The edit of a sequence at a position: an item in place, or a new last one. -/
theorem alterChild_sequence_of_le {xs : List Value} {i : Nat} (h : i ≤ xs.length) :
    (sequence xs).alterChild (writeNat i) fill f =
      sequence (if i < xs.length then xs.modify i f else xs ++ [f fill]) := by
  simp [alterChild, position?_writeNat, Nat.lt_succ_of_le h]

/-- Asked for any other name, a sequence gives way to the mapping of its positions. -/
theorem alterChild_sequence_of_none {xs : List Value}
    (h : position? segment (xs.length + 1) = none) :
    (sequence xs).alterChild segment fill f =
      (mapping (indexed xs)).alterChild segment fill f := by
  simp [alterChild, h]

theorem child?_alterChild_self :
    (v.alterChild segment fill f).child? segment = some (f ((v.child? segment).getD fill)) := by
  cases v with
  | mapping es => simp [alterChild, child?]
  | sequence xs =>
    cases h : position? segment (xs.length + 1) with
    | none =>
      rw [alterChild_sequence_of_none _ _ _ h, ← child?_indexed]
      simp [alterChild, child?]
    | some i =>
      obtain ⟨hi, rfl⟩ := position?_eq_some_iff.1 h
      rw [alterChild_sequence_of_le _ _ (Nat.le_of_lt_succ hi)]
      by_cases hlt : i < xs.length
      · simp [hlt]
      · have : i = xs.length := by omega
        simp [this]
  | _ => simp [alterChild, child?, Entries.find?]

theorem child?_alterChild_of_ne {other : String} (hne : other ≠ segment) :
    (v.alterChild segment fill f).child? other = v.child? other := by
  cases v with
  | mapping es => simp [alterChild, child?, Entries.find?_upsert_of_ne hne]
  | sequence xs =>
    cases h : position? segment (xs.length + 1) with
    | none =>
      rw [alterChild_sequence_of_none _ _ _ h, ← child?_indexed]
      simp [alterChild, child?, Entries.find?_upsert_of_ne hne]
    | some i =>
      obtain ⟨hi, rfl⟩ := position?_eq_some_iff.1 h
      rw [alterChild_sequence_of_le _ _ (Nat.le_of_lt_succ hi)]
      rcases canonical_or other with ⟨j, rfl⟩ | hno
      · have hij : i ≠ j := fun hij => hne (hij ▸ rfl)
        rw [child?_sequence_writeNat, child?_sequence_writeNat]
        by_cases hlt : i < xs.length
        · simp [hlt, hij]
        · have hi : i = xs.length := by omega
          rw [if_neg hlt, List.getElem?_append]
          split
          · rfl
          · next hj =>
            rw [List.getElem?_singleton, if_neg (by omega), List.getElem?_eq_none (by omega)]
      · rw [child?_sequence_of_forall_ne hno, child?_sequence_of_forall_ne hno]
  | _ => simp [alterChild, child?, Entries.find?, hne.symm]

theorem modify_length_append (xs : List Value) (x : Value) :
    (xs ++ [x]).modify xs.length f = xs ++ [f x] := by
  induction xs with
  | nil => rfl
  | cons y xs ih => simp [ih]

/-- Two edits of one child in a row are one edit. -/
theorem alterChild_alterChild (g : Value → Value) :
    (v.alterChild segment fill g).alterChild segment fill f =
      v.alterChild segment fill (f ∘ g) := by
  cases v with
  | mapping es => simp [alterChild, Entries.upsert_upsert]
  | sequence xs =>
    cases h : position? segment (xs.length + 1) with
    | none =>
      rw [alterChild_sequence_of_none _ _ _ h, alterChild_sequence_of_none _ _ _ h]
      simp [alterChild, Entries.upsert_upsert]
    | some i =>
      obtain ⟨hi, rfl⟩ := position?_eq_some_iff.1 h
      have hle : i ≤ xs.length := Nat.le_of_lt_succ hi
      rw [alterChild_sequence_of_le _ _ hle, alterChild_sequence_of_le _ _ hle]
      by_cases hlt : i < xs.length
      · simp only [hlt, if_true]
        rw [alterChild_sequence_of_le _ _ (by simpa using hle)]
        simp [hlt, List.modify_modify_eq]
      · have : i = xs.length := by omega
        subst this
        simp only [Nat.lt_irrefl, if_false]
        rw [alterChild_sequence_of_le _ _ (by simp), if_pos (by simp), modify_length_append]
        rfl
  | _ => simp [alterChild, Entries.upsert]

end Edit

theorem modify_congr {xs : List Value} {i : Nat} {f g : Value → Value}
    (h : ∀ x, xs[i]? = some x → f x = g x) : xs.modify i f = xs.modify i g := by
  refine List.ext_getElem? fun j => ?_
  rw [List.getElem?_modify, List.getElem?_modify]
  by_cases hij : i = j
  · subst hij
    cases hx : xs[i]? with
    | none => rfl
    | some x => simp [h x hx]
  · simp [hij]

/-- An edit is what it does to the child, or to what takes the child's place. -/
theorem alterChild_congr {v fill : Value} {segment : String} {f g : Value → Value}
    (h : f ((v.child? segment).getD fill) = g ((v.child? segment).getD fill)) :
    v.alterChild segment fill f = v.alterChild segment fill g := by
  cases v with
  | mapping es => exact congrArg mapping (Entries.upsert_congr h)
  | sequence xs =>
    cases hpos : position? segment (xs.length + 1) with
    | none =>
      rw [← child?_indexed] at h
      rw [alterChild_sequence_of_none _ _ _ hpos, alterChild_sequence_of_none _ _ _ hpos]
      exact congrArg mapping (Entries.upsert_congr h)
    | some i =>
      obtain ⟨hi, rfl⟩ := position?_eq_some_iff.1 hpos
      have hle : i ≤ xs.length := Nat.le_of_lt_succ hi
      rw [child?_sequence_writeNat] at h
      rw [alterChild_sequence_of_le _ _ hle, alterChild_sequence_of_le _ _ hle]
      split
      · rw [modify_congr fun x hx => by simpa [hx] using h]
      · next hlt =>
        rw [List.getElem?_eq_none (Nat.le_of_not_lt hlt)] at h
        have hfill : f fill = g fill := h
        rw [hfill]
  | _ => exact congrArg (fun x => mapping [(segment, x)]) h

/-- An edit that gives back the child that it finds changes nothing. -/
theorem alterChild_of_child? {v child fill : Value} {segment : String} {f : Value → Value}
    (h : v.child? segment = some child) (hf : f child = child) :
    v.alterChild segment fill f = v := by
  have hid : v.alterChild segment fill f = v.alterChild segment fill id :=
    alterChild_congr (by simpa [h] using hf)
  rw [hid]
  cases v with
  | mapping es => exact congrArg mapping (Entries.upsert_id h fill)
  | sequence xs =>
    obtain ⟨i, hi, -⟩ := Option.bind_eq_some_iff.1 h
    obtain ⟨hlt, rfl⟩ := position?_eq_some_iff.1 hi
    rw [alterChild_sequence_of_le _ _ (Nat.le_of_lt hlt), if_pos hlt, List.modify_id]
  | _ => cases h

/-! ### The names in order -/

/-- The names of the children, in order. -/
def childNames : Value → List String
  | mapping es => Entries.names es
  | sequence xs => (List.range xs.length).map writeNat
  | _ => []

theorem names_indexedFrom (start : Nat) (xs : List Value) :
    Entries.names (indexedFrom start xs) = (List.range' start xs.length).map writeNat := by
  induction xs generalizing start with
  | nil => rfl
  | cons x xs ih => simp [indexedFrom, List.range'_succ, ih]

theorem childNames_indexed (xs : List Value) :
    (mapping (indexed xs)).childNames = (sequence xs).childNames := by
  simp [childNames, indexed, names_indexedFrom, List.range_eq_range']

theorem childNames_alterChild (v : Value) (segment : String) (fill : Value) (f : Value → Value) :
    (v.alterChild segment fill f).childNames =
      v.childNames ++ if segment ∈ v.childNames then [] else [segment] := by
  cases v with
  | mapping es => exact Entries.names_upsert segment fill f es
  | sequence xs =>
    cases h : position? segment (xs.length + 1) with
    | none =>
      rw [alterChild_sequence_of_none _ _ _ h, ← childNames_indexed]
      exact Entries.names_upsert segment fill f (indexed xs)
    | some i =>
      obtain ⟨hi, rfl⟩ := position?_eq_some_iff.1 h
      rw [alterChild_sequence_of_le _ _ (Nat.le_of_lt_succ hi)]
      by_cases hlt : i < xs.length
      · simp [hlt, childNames]
      · have : i = xs.length := by omega
        subst this
        simp [childNames, List.range_succ]
  | _ => simp [alterChild, childNames]

/-- An edited value is a mapping, or a sequence that was one before. -/
theorem kind_alterChild (v : Value) (segment : String) (fill : Value) (f : Value → Value) :
    (v.alterChild segment fill f).kind = .mapping ∨
      (v.alterChild segment fill f).kind = .sequence ∧ v.kind = .sequence := by
  cases v with
  | sequence xs => cases h : position? segment (xs.length + 1) <;> simp [alterChild, h, kind]
  | _ => exact .inl rfl

end Value

end PathBag
