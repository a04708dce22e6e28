import PathBag.Proofs.Bag.Construction
import PathBag.Proofs.Bag.Operations
import PathBag.Proofs.Tree.Weights

/-!
# Copies

A detached bag is made from a mapping by reading the names of its entries as keys.  A name that is
the one segment of its own key comes back as it was.  Every other name falls apart on the way, and
no other entry can bring it back: the separators in all names together, and the empty names with
them, become fewer (`nameWeight`).
-/

namespace PathBag

open Decimal

/-! ### The names that keys keep -/

/-- The characters between the segments of keys. -/
def isSeparator (c : Char) : Bool := c == '.' || c == '['

/-- What reading a name as a key takes away of it. -/
def nameWeight (name : String) : Nat :=
  if name = "" then 1 else 3 * name.toList.countP isSeparator

theorem nameWeight_ofList_cons (c : Char) (cs : List Char) :
    nameWeight (String.ofList (c :: cs)) = 3 * (c :: cs).countP isSeparator := by
  rw [nameWeight, if_neg (by simp), String.toList_ofList]

theorem le_nameWeight_ofList (cs : List Char) :
    3 * cs.countP isSeparator ≤ nameWeight (String.ofList cs) := by
  cases cs with
  | nil => exact Nat.zero_le _
  | cons c cs => exact Nat.le_of_eq (nameWeight_ofList_cons c cs).symm

theorem nameWeight_of_ne {name : String} (h : name ≠ "") :
    nameWeight name = 3 * name.toList.countP isSeparator := if_neg h

/-- Decimals weigh nothing. -/
theorem nameWeight_writeNat (n : Nat) : nameWeight (writeNat n) = 0 := by
  have hnone : (Nat.toDigits 10 n).countP isSeparator = 0 := by
    refine List.countP_eq_zero.2 fun c hc hsep => ?_
    have hdigit := isDigit_of_mem_toDigits hc
    rw [isSeparator, Bool.or_eq_true, beq_iff_eq, beq_iff_eq] at hsep
    rcases hsep with rfl | rfl
    · exact absurd hdigit (by decide)
    · exact absurd hdigit (by decide)
  obtain ⟨c, cs, hcs⟩ := List.exists_cons_of_ne_nil (Nat.toDigits_ne_nil (n := n) (b := 10))
  rw [hcs] at hnone
  rw [writeNat, hcs, nameWeight_ofList_cons, hnone]

/-- Each separator that is gone takes three with it, and each part that is left empty brings back
one. -/
theorem sum_nameWeight_splitAt {sep : Char} (hsep : isSeparator sep = true) (cs : List Char) :
    ((splitAt sep cs).map fun part => nameWeight (String.ofList part)).sum + 2 * cs.count sep ≤
      3 * cs.countP isSeparator + 1 := by
  induction cs with
  | nil => exact Nat.le_refl 1
  | cons c cs ih =>
    by_cases hc : c = sep
    · subst hc
      have hnil : nameWeight (String.ofList []) = 1 := rfl
      rw [splitAt, if_pos rfl, List.map_cons, List.sum_cons, List.count_cons_self,
        List.countP_cons_of_pos hsep]
      omega
    · obtain ⟨part, parts, hparts⟩ := List.exists_cons_of_ne_nil (splitAt_ne_nil sep cs)
      have hpart := le_nameWeight_ofList part
      rw [hparts, List.map_cons, List.sum_cons] at ih
      rw [splitAt, if_neg hc, hparts, List.map_cons, List.sum_cons, nameWeight_ofList_cons,
        List.count_cons_of_ne hc, List.countP_cons, List.countP_cons]
      omega

namespace Path

/-- A name that is no key of itself weighs more than the segments that it falls into. -/
theorem sum_nameWeight_ofKey_lt {key : String} (h : ofKey key ≠ [key]) :
    ((ofKey key).map nameWeight).sum < nameWeight key := by
  by_cases hne : key = ""
  · subst hne
    decide
  rw [nameWeight_of_ne hne]
  by_cases hbracket : '[' ∈ key.toList
  · have hsep : isSeparator '[' = true := rfl
    have hsum := sum_nameWeight_splitAt hsep (key.toList.filter (· ≠ ']'))
    have hcount : 0 < (key.toList.filter (· ≠ ']')).count '[' :=
      List.count_pos_iff.2 (List.mem_filter.2 ⟨hbracket, by decide⟩)
    have hsame : (key.toList.filter (· ≠ ']')).countP isSeparator =
        key.toList.countP isSeparator := by
      rw [List.countP_filter]
      refine List.countP_congr fun c _ => ?_
      simp only [Bool.and_eq_true, decide_eq_true_iff, and_iff_left_iff_imp]
      rintro hsep rfl
      cases hsep
    rw [ofKey_of_bracketed hbracket, List.map_map]
    simp only [Function.comp_def]
    omega
  · have hdot : '.' ∈ key.toList :=
      Decidable.byContradiction fun hdot => h (ofKey_of_plain hne hdot hbracket)
    have hsep : isSeparator '.' = true := rfl
    have hsum := sum_nameWeight_splitAt hsep key.toList
    have hcount := List.count_pos_iff.2 hdot
    rw [ofKey_of_dotted hne hbracket, List.map_map]
    simp only [Function.comp_def]
    omega

theorem sum_nameWeight_ofKey_le (key : String) :
    ((ofKey key).map nameWeight).sum ≤ nameWeight key := by
  by_cases h : ofKey key = [key]
  · rw [h]
    simp
  · exact Nat.le_of_lt (sum_nameWeight_ofKey_lt h)

end Path

/-! ### What a copy weighs -/

namespace Value

/-- What the entries can bring into a tree when their names are read as keys. -/
def keyedWeight (es : List (String × Value)) : Nat :=
  (es.map fun e => ((Path.ofKey e.1).map nameWeight).sum + e.2.weight nameWeight).sum

theorem keyedWeight_cons (name : String) (v : Value) (es : List (String × Value)) :
    keyedWeight ((name, v) :: es) =
      ((Path.ofKey name).map nameWeight).sum + v.weight nameWeight + keyedWeight es := by
  rw [keyedWeight, List.map_cons, List.sum_cons]
  rfl

theorem keyedWeight_le (es : Entries Value) : keyedWeight es ≤ weightEntries nameWeight es := by
  induction es with
  | nil => exact Nat.le_refl 0
  | cons e es ih =>
    obtain ⟨name, v⟩ := e
    have hname := Path.sum_nameWeight_ofKey_le name
    rw [keyedWeight_cons, weightEntries]
    omega

/-- Entries of which one falls apart bring in less than they weigh. -/
theorem ofKey_eq_singleton_of_weight_le {es : Entries Value}
    (h : weightEntries nameWeight es ≤ keyedWeight es) : ∀ e ∈ es, Path.ofKey e.1 = [e.1] := by
  induction es with
  | nil => exact fun e he => absurd he List.not_mem_nil
  | cons e es ih =>
    obtain ⟨name, v⟩ := e
    have hle := keyedWeight_le es
    have hname := Path.sum_nameWeight_ofKey_le name
    rw [keyedWeight_cons, weightEntries] at h
    refine List.forall_mem_cons.2 ⟨?_, ih (by omega)⟩
    refine Decidable.byContradiction fun hne => ?_
    have hlt : ((Path.ofKey name).map nameWeight).sum < nameWeight name :=
      Path.sum_nameWeight_ofKey_lt hne
    omega

end Value

namespace Plain

open Value

/-- A merge brings in the segments of its path and what is merged. -/
theorem weight_write_le (path : Path) (merging : Bool) (v t : Value) :
    (write path merging v t).weight nameWeight ≤
      t.weight nameWeight + (path.map nameWeight).sum + v.weight nameWeight := by
  refine weight_alter_le nameWeight_writeNat (fun slot => ?_) path t
  cases merging with
  | true => exact weight_merge_le nameWeight_writeNat slot v
  | false => exact Nat.le_add_left _ _

/-- The tree gains no more weight than the entries bring in. -/
theorem weight_addEntries_le (es : List (String × Value)) (t : Value) :
    (addEntries es t).weight nameWeight ≤ t.weight nameWeight + keyedWeight es := by
  induction es generalizing t with
  | nil => exact Nat.le_add_right _ _
  | cons e es ih =>
    obtain ⟨name, v⟩ := e
    have hrest := ih (write (Path.ofKey name) true v t)
    have hwrite := weight_write_le (Path.ofKey name) true v t
    rw [addEntries, keyedWeight_cons]
    omega

/-- Entries come together to the mapping that they are from if and only if their names are keys of
themselves. -/
theorem addEntries_empty_iff {es : Entries Value} (hes : (mapping es).Distinct) :
    addEntries es Value.empty = mapping es ↔ ∀ e ∈ es, Path.ofKey e.1 = [e.1] := by
  constructor
  · intro htree
    have hweight := weight_addEntries_le es Value.empty
    rw [htree, weight_mapping, weight_empty, Nat.zero_add] at hweight
    exact ofKey_eq_singleton_of_weight_le hweight
  · intro hown
    obtain ⟨hnames, hcontents⟩ := (distinct_mapping es).1 hes
    have hplain : ∀ e ∈ es, e.1 ≠ "" ∧ '.' ∉ e.1.toList ∧ '[' ∉ e.1.toList :=
      fun e he => Path.ofKey_eq_singleton_iff.1 (hown e he)
    have hgraft := Bag.add_of_vacant .plain hcontents
      (Bag.pairwise_diverges_of_plain hnames hplain) fun e _ => .of_empty _
    have htree : graft es Value.empty = mapping es := graft_mapping hplain hnames
    rw [Bag.add_plain, htree] at hgraft
    injection hgraft with hbag
    injection hbag

end Plain

namespace Bag

open Value

/-- **When a copy is faithful.**  Detaching the composite at a key of a plain bag always gives a plain
bag.  The copy of a sequence is the sequence; the copy of a mapping is the mapping exactly if each of
its own names, read as a key, is the one segment of its path.  The names further down do not count. -/
theorem exists_detach_plain {t v : Value} {key : String} (ht : t.Distinct)
    (hread : (⟨.plain, t⟩ : Bag).read key = .ok v) (hv : v.isComposite = true) :
    ∃ copy : Bag, (⟨.plain, t⟩ : Bag).detach key = .ok copy ∧ copy.mode = .plain ∧
      copy.all = .ok copy.tree ∧
      (copy.tree = v ↔ ∀ e ∈ v.entries?.getD [], Path.ofKey e.1 = [e.1]) := by
  have hcomposite : Filter.composite.admits v = true := hv
  have hdetach : (⟨.plain, t⟩ : Bag).detach key = ofValue .plain v := by
    rw [detach, Lookup.getAs_of_ok hread, if_pos hcomposite]
    rfl
  have hdistinct : v.Distinct := ht.node? (Plain.node?_of_walk hread)
  cases v with
  | sequence xs =>
    refine ⟨⟨.plain, .sequence xs⟩, hdetach, rfl, rfl, fun _ e he => ?_, fun _ => rfl⟩
    exact absurd he List.not_mem_nil
  | mapping es =>
    have hmade : ofValue .plain (.mapping es) = .ok ⟨.plain, Plain.addEntries es .empty⟩ :=
      ofEntries_plain es
    exact ⟨_, hdetach.trans hmade, rfl, rfl, Plain.addEntries_empty_iff hdistinct⟩
  | _ => cases hv

/-- Below the names of the mapping itself any name is kept, and so is a bracket that closes
nothing. -/
theorem exists_detach_plain_nested :
    ∃ copy : Bag,
      (⟨.plain, .mapping [("a", .mapping [("x]", .mapping [("y.z", .int 1), ("", .null)])])]⟩ :
        Bag).detach "a" = .ok copy ∧
      copy.tree = .mapping [("x]", .mapping [("y.z", .int 1), ("", .null)])] := by
  have ht : (Value.mapping
      [("a", .mapping [("x]", .mapping [("y.z", .int 1), ("", .null)])])]).Distinct := by decide
  have hread : (⟨.plain, .mapping
      [("a", .mapping [("x]", .mapping [("y.z", .int 1), ("", .null)])])]⟩ : Bag).read "a" =
        .ok (.mapping [("x]", .mapping [("y.z", .int 1), ("", .null)])]) := rfl
  obtain ⟨copy, hdetach, -, -, hexact⟩ := exists_detach_plain ht hread rfl
  exact ⟨copy, hdetach, hexact.2 (by decide)⟩

/-- A name with a dot is taken for two segments, and then lost to the entry after it. -/
theorem detach_plain_dotted :
    (⟨.plain, .mapping [("a", .mapping [("x.y", .int 1), ("x", .int 2)])]⟩ : Bag).read "a" =
        .ok (.mapping [("x.y", .int 1), ("x", .int 2)]) ∧
      (⟨.plain, .mapping [("a", .mapping [("x.y", .int 1), ("x", .int 2)])]⟩ : Bag).detach "a" =
        .ok ⟨.plain, .mapping [("x", .int 2)]⟩ := ⟨rfl, rfl⟩

end Bag

end PathBag
