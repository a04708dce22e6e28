import PathBag.Proofs.Tree.Distinct
import PathBag.Proofs.Tree.Texts
import PathBag.Value.Tree

/-!
# Deep merge, path by path

Laying a mapping over a value works on each path on its own: as far as the upper value consists of
mappings, the node at a path is the merge of the two nodes that stand there, or the one of them
that there is (`node?_merge`).  The names of the value below stay where they are, and the new ones
follow in the order of the upper value (`childNames_merge`).  `node?_merge_mapping` is both.

`Option.merge` is the merge of two nodes either of which may be missing.
-/

namespace PathBag.Value

/-! ### Entries laid over entries -/

theorem find?_mergeEntries {es : Entries Value} (hes : es.names.Nodup) (base : Entries Value)
    (name : String) :
    Entries.find? name (mergeEntries base es) =
      Option.merge merge (base.find? name) (es.find? name) := by
  induction es generalizing base with
  | nil => simp [mergeEntries]
  | cons e es ih =>
    obtain ⟨n, v⟩ := e
    obtain ⟨hn, hes⟩ := List.nodup_cons.1 hes
    rw [mergeEntries, ih hes, Entries.find?]
    by_cases h : n = name
    · -- the only entry of the name: the entries after it leave it as it is
      subst h
      rw [Entries.find?_eq_none_iff.2 hn, Entries.find?_insert_self, if_pos rfl]
      cases base.find? n <;> rfl
    · rw [Entries.find?_insert_of_ne (Ne.symm h), if_neg h]

theorem names_mergeEntries {es : Entries Value} (hes : es.names.Nodup) (base : Entries Value) :
    Entries.names (mergeEntries base es) =
      base.names ++ es.names.filter (· ∉ base.names) := by
  induction es generalizing base with
  | nil => simp [mergeEntries]
  | cons e es ih =>
    obtain ⟨n, v⟩ := e
    obtain ⟨hn, hes⟩ := List.nodup_cons.1 hes
    rw [mergeEntries, ih hes, Entries.insert, Entries.names_upsert, Entries.names_cons]
    by_cases h : n ∈ base.names
    · simp [h]
    · have hlater : (Entries.names es).filter (· ∉ base.names ++ [n]) =
          (Entries.names es).filter (· ∉ base.names) :=
        List.filter_congr fun m hm => by
          have hmn : m ≠ n := fun heq => hn (heq ▸ hm)
          simp [hmn]
      rw [if_neg h, hlater]
      simp [h]

/-! ### One level -/

theorem child?_promote (segment : String) (v : Value) :
    v.promote.child? segment = v.child? segment := by
  cases v with
  | sequence xs => exact child?_indexed segment xs
  | _ => rfl

theorem childNames_promote (v : Value) : v.promote.childNames = v.childNames := by
  cases v with
  | sequence xs => exact childNames_indexed xs
  | _ => rfl

/-- What a mapping laid over `base` gives: the entries laid over those of `base`, or the mapping
itself over a value without children. -/
theorem merge_mapping (base : Value) (es : Entries Value) :
    (∃ bs, base.promote = mapping bs ∧ base.merge (mapping es) = mapping (mergeEntries bs es)) ∨
      base.isEmpty = true ∧ base.merge (mapping es) = mapping es := by
  rw [merge]
  cases base with
  | mapping bs =>
    cases bs with
    | nil => exact .inr ⟨rfl, rfl⟩
    | cons b bs => exact .inl ⟨_, rfl, rfl⟩
  | sequence xs =>
    cases xs with
    | nil => exact .inr ⟨rfl, rfl⟩
    | cons x xs => exact .inl ⟨_, rfl, rfl⟩
  | _ => exact .inr ⟨rfl, rfl⟩

/-- A scalar comes through as it is. -/
theorem merge_of_scalar {v : Value} (h : v.isComposite = false) (base : Value) :
    base.merge v = v := by
  cases v with
  | mapping es => cases h
  | sequence xs => cases h
  | _ => rfl

/-- Over the mapping without entries the upper value comes through as it is. -/
theorem empty_merge (v : Value) : empty.merge v = v := by
  cases v with
  | mapping es => rw [merge]; rfl
  | _ => rfl

theorem child?_of_isEmpty {v : Value} (h : v.isEmpty = true) (segment : String) :
    v.child? segment = none := by
  cases v with
  | mapping es =>
    obtain rfl : es = [] := by simpa [isEmpty, size] using h
    rfl
  | sequence xs =>
    obtain rfl : xs = [] := by simpa [isEmpty, size] using h
    simp [child?]
  | _ => rfl

theorem child?_merge (base : Value) {es : Entries Value} (hes : es.names.Nodup)
    (segment : String) :
    (base.merge (mapping es)).child? segment =
      Option.merge merge (base.child? segment) ((mapping es).child? segment) := by
  rcases merge_mapping base es with ⟨bs, hbs, hmerge⟩ | ⟨hempty, hmerge⟩
  · rw [hmerge, ← child?_promote segment base, hbs]
    exact find?_mergeEntries hes bs segment
  · rw [hmerge, child?_of_isEmpty hempty, Option.merge_none_left]

theorem childNames_merge {base : Value} (hbase : base.isEmpty = false) {es : Entries Value}
    (hes : es.names.Nodup) :
    (base.merge (mapping es)).childNames =
      base.childNames ++ es.names.filter (· ∉ base.childNames) := by
  rcases merge_mapping base es with ⟨bs, hbs, hmerge⟩ | ⟨hempty, -⟩
  · rw [hmerge, ← childNames_promote base, hbs]
    exact names_mergeEntries hes bs
  · rw [hempty] at hbase
    cases hbase

/-! ### Every level -/

theorem node?_merge {a b : Value} (hb : b.Distinct) {p : Path}
    (hp : ∀ q, q <+: p → q ≠ p → ∃ es, b.node? q = some (mapping es)) :
    (a.merge b).node? p = Option.merge merge (a.node? p) (b.node? p) := by
  induction p generalizing a b with
  | nil => rfl
  | cons s p ih =>
    obtain ⟨es, hes⟩ := hp [] List.nil_prefix (by simp)
    obtain rfl : b = mapping es := by simpa using hes
    obtain ⟨hnames, hentries⟩ := (distinct_mapping es).1 hb
    rw [node?_cons, node?_cons, node?_cons, child?_merge a hnames]
    cases hy : (mapping es).child? s with
    | none => simp
    | some y =>
      cases a.child? s with
      | none => simp
      | some x =>
        -- both have a child here, and the rest of the path lies below the two children
        have hyDistinct : y.Distinct := hentries _ (Entries.mem_of_find? hy)
        refine ih hyDistinct fun q hq hne => ?_
        have hsq := hp (s :: q) ((List.prefix_cons_inj s).2 hq) (by simpa using hne)
        simpa [node?_cons, hy] using hsq

/-- **Deep merge is pointwise.**  Lay a mapping over a value.  At every path above whose end the
mapping has mappings only, the result has the merge of the two nodes where both have one, the one
node where only one has it, and nothing where neither has.  Over a value with children the names
are those of the value in their order and then the new ones in theirs. -/
theorem node?_merge_mapping (a : Value) {es : Entries Value} (hes : (mapping es).Distinct) :
    (∀ p : Path,
      (∀ q, q <+: p → q ≠ p → ∃ fs, (mapping es).node? q = some (mapping fs)) →
      (a.merge (mapping es)).node? p =
        Option.merge merge (a.node? p) ((mapping es).node? p)) ∧
    (a.isEmpty = false →
      (a.merge (mapping es)).childNames =
        a.childNames ++ (mapping es).childNames.filter (· ∉ a.childNames)) :=
  ⟨fun _ hp => node?_merge hes hp, fun ha => childNames_merge ha ((distinct_mapping es).1 hes).1⟩

/-- A mapping over a sequence: the items become entries, one of them is merged with its new content,
and a new name comes last. -/
theorem node?_merge_mapping_sequence :
    (mapping [("k", null), ("1", mapping [("x", int 7)])]).Distinct ∧
    ((sequence [int 4, mapping [("y", int 5)]]).merge
      (mapping [("k", null), ("1", mapping [("x", int 7)])])).node? ["1", "x"] = some (int 7) ∧
    ((sequence [int 4, mapping [("y", int 5)]]).merge
      (mapping [("k", null), ("1", mapping [("x", int 7)])])).node? ["1", "y"] = some (int 5) ∧
    ((sequence [int 4, mapping [("y", int 5)]]).merge
      (mapping [("k", null), ("1", mapping [("x", int 7)])])).childNames = ["0", "1", "k"] := by
  have hes : (mapping [("k", null), ("1", mapping [("x", int 7)])]).Distinct := by decide
  obtain ⟨hnode, hnames⟩ :=
    node?_merge_mapping (sequence [int 4, mapping [("y", int 5)]]) hes
  -- the paths strictly above one of two segments
  have above (s t : String) : ∀ q, q <+: [s, t] → q ≠ [s, t] → q = [] ∨ q = [s] := by
    intro q hq hne
    simp only [List.prefix_cons_iff, List.prefix_nil] at hq
    grind
  have hmappings (t : String) : ∀ q, q <+: ["1", t] → q ≠ ["1", t] →
      ∃ fs, (mapping [("k", null), ("1", mapping [("x", int 7)])]).node? q = some (mapping fs) := by
    intro q hq hne
    rcases above "1" t q hq hne with rfl | rfl
    · exact ⟨_, rfl⟩
    · exact ⟨_, rfl⟩
  refine ⟨hes, ?_, ?_, ?_⟩
  · rw [hnode _ (hmappings "x")]
    rfl
  · rw [hnode _ (hmappings "y")]
    rfl
  · rw [hnames rfl]
    decide

end PathBag.Value
