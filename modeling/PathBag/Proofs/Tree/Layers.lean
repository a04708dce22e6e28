import PathBag.Proofs.Tree.Merge

/-!
# Layers

Three values laid over each other: it does not matter whether the upper two or the lower two are
merged first (`merge_assoc`), as long as what comes to lie over one another is of one kind
(`Compatible`).

Mappings are compared by their names in order and by what stands under each name
(`Entries.ext_of_nodup`).  Deep merge has a law for either, so the grouping of three mappings comes
down to that of the three values under one name, any of which may be missing
(`mergeEntries_assoc`).
-/

namespace PathBag

/-- Entries of distinct names are what their names in order lead to. -/
theorem Entries.ext_of_nodup {α : Type} {es fs : Entries α} (hes : es.names.Nodup)
    (hnames : es.names = fs.names) (hfind : ∀ name, es.find? name = fs.find? name) : es = fs := by
  induction es generalizing fs with
  | nil => exact (List.map_eq_nil_iff.1 hnames.symm).symm
  | cons e es ih =>
    cases fs with
    | nil => cases hnames
    | cons f fs =>
      obtain ⟨n, x⟩ := e
      obtain ⟨m, y⟩ := f
      obtain ⟨rfl, hrest⟩ : n = m ∧ names es = names fs := by simpa using hnames
      obtain ⟨hn, hes⟩ := List.nodup_cons.1 hes
      obtain rfl : x = y := by simpa [find?] using hfind n
      rw [ih hes hrest fun name => ?_]
      by_cases hname : n = name
      · subst hname
        rw [find?_eq_none_iff.2 hn, find?_eq_none_iff.2 (hrest ▸ hn)]
      · simpa [find?, hname] using hfind name

namespace Value

/-! ### Values of one kind -/

/-- Both values are scalars, both are sequences, or both are mappings whose contents under each
shared name are compatible. -/
inductive Compatible : Value → Value → Prop where
  | scalars {v w : Value} (hv : v.isComposite = false) (hw : w.isComposite = false) :
      Compatible v w
  | sequences (xs ys : List Value) : Compatible (sequence xs) (sequence ys)
  | mappings {es fs : Entries Value}
      (h : ∀ name x y, es.find? name = some x → fs.find? name = some y → Compatible x y) :
      Compatible (mapping es) (mapping fs)

theorem compatible_mapping_of_forall {es fs : Entries Value}
    (h : ∀ e ∈ es, ∀ f ∈ fs, e.1 = f.1 → Compatible e.2 f.2) :
    Compatible (mapping es) (mapping fs) :=
  .mappings fun _ _ _ hx hy => h _ (Entries.mem_of_find? hx) _ (Entries.mem_of_find? hy) rfl

/-! ### Merging two of one kind -/

theorem sequence_merge_sequence (xs ys : List Value) :
    (sequence xs).merge (sequence ys) = sequence (xs ++ ys) := by rw [merge]

theorem nodup_mergeEntries {bs cs : Entries Value} (hbs : bs.names.Nodup) (hcs : cs.names.Nodup) :
    (Entries.names (mergeEntries bs cs)).Nodup := by
  rw [names_mergeEntries hcs]
  refine List.nodup_append.2 ⟨hbs, hcs.filter _, ?_⟩
  rintro n hn m hm rfl
  simp [hn] at hm

theorem mergeEntries_nil {es : Entries Value} (hes : es.names.Nodup) : mergeEntries [] es = es :=
  Entries.ext_of_nodup (nodup_mergeEntries List.nodup_nil hes)
    (by simp [names_mergeEntries hes])
    (fun name => by rw [find?_mergeEntries hes, Entries.find?_nil, Option.merge_none_left])

theorem mapping_merge_mapping (bs : Entries Value) {cs : Entries Value} (hcs : cs.names.Nodup) :
    (mapping bs).merge (mapping cs) = mapping (mergeEntries bs cs) := by
  cases bs with
  | nil =>
    rw [mergeEntries_nil hcs]
    exact empty_merge _
  | cons b bs =>
    rw [merge]
    rfl

/-! ### Merging three -/

/-- Either way the names are those of the lowest mapping and then what each upper one adds. -/
theorem names_mergeEntries_assoc (as : Entries Value) {bs cs : Entries Value}
    (hbs : bs.names.Nodup) (hcs : cs.names.Nodup) :
    Entries.names (mergeEntries (mergeEntries as bs) cs) =
      Entries.names (mergeEntries as (mergeEntries bs cs)) := by
  rw [names_mergeEntries hcs, names_mergeEntries hbs,
    names_mergeEntries (nodup_mergeEntries hbs hcs), names_mergeEntries hcs, List.filter_append,
    List.filter_filter, List.append_assoc]
  refine congrArg (fun added => as.names ++ (bs.names.filter (· ∉ as.names) ++ added)) ?_
  apply List.filter_congr
  intro n _
  by_cases hn : n ∈ as.names <;> simp [hn]

theorem option_merge_assoc {f : Value → Value → Value} {x y z : Option Value}
    (h : ∀ a b c, x = some a → y = some b → z = some c → f (f a b) c = f a (f b c)) :
    Option.merge f (Option.merge f x y) z = Option.merge f x (Option.merge f y z) := by
  cases x with
  | none => simp
  | some a =>
    cases y with
    | none => simp
    | some b =>
      cases z with
      | none => simp
      | some c => exact congrArg some (h a b c rfl rfl rfl)

/-- Three mappings may be grouped where the contents may that all three have under one name. -/
theorem mergeEntries_assoc {as bs cs : Entries Value} (has : as.names.Nodup)
    (hbs : bs.names.Nodup) (hcs : cs.names.Nodup)
    (h : ∀ name x y z, as.find? name = some x → bs.find? name = some y → cs.find? name = some z →
      (x.merge y).merge z = x.merge (y.merge z)) :
    mergeEntries (mergeEntries as bs) cs = mergeEntries as (mergeEntries bs cs) := by
  have hnodup := nodup_mergeEntries (nodup_mergeEntries has hbs) hcs
  apply Entries.ext_of_nodup hnodup (names_mergeEntries_assoc as hbs hcs)
  intro name
  rw [find?_mergeEntries hcs, find?_mergeEntries hbs,
    find?_mergeEntries (nodup_mergeEntries hbs hcs), find?_mergeEntries hcs]
  exact option_merge_assoc (h name)

/-- **Layers may be grouped.**  Over values that are compatible in pairs, merging is associative:
the results are the same value, down to the order of the names. -/
theorem merge_assoc {a b c : Value} (ha : a.Distinct) (hb : b.Distinct) (hc : c.Distinct)
    (hab : Compatible a b) (hbc : Compatible b c) (hac : Compatible a c) :
    (a.merge b).merge c = a.merge (b.merge c) := by
  induction hab generalizing c with
  | scalars _ hscalar =>
    cases hbc with
    | scalars _ hscalar' => simp only [merge_of_scalar hscalar, merge_of_scalar hscalar']
    | sequences _ _ => nomatch hscalar
    | mappings _ => nomatch hscalar
  | sequences xs ys =>
    cases hbc with
    | scalars hscalar => nomatch hscalar
    | sequences _ zs => simp only [sequence_merge_sequence, List.append_assoc]
  | @mappings as bs _ ih =>
    cases hbc with
    | scalars hscalar => nomatch hscalar
    | @mappings _ cs hbc =>
      cases hac with
      | scalars hscalar => nomatch hscalar
      | mappings hac =>
        obtain ⟨has, hbelowA⟩ := (distinct_mapping as).1 ha
        obtain ⟨hbs, hbelowB⟩ := (distinct_mapping bs).1 hb
        obtain ⟨hcs, hbelowC⟩ := (distinct_mapping cs).1 hc
        rw [mapping_merge_mapping _ hbs, mapping_merge_mapping _ hcs, mapping_merge_mapping _ hcs,
          mapping_merge_mapping _ (nodup_mergeEntries hbs hcs)]
        apply congrArg mapping
        apply mergeEntries_assoc has hbs hcs
        intro name x y z hx hy hz
        exact ih name x y hx hy (hbelowA _ (Entries.mem_of_find? hx))
          (hbelowB _ (Entries.mem_of_find? hy)) (hbelowC _ (Entries.mem_of_find? hz))
          (hbc name y z hy hz) (hac name x z hx hz)

/-- Three layers: a mapping that is empty in the lowest one, a sequence that the middle one does not
have, and an entry that only the upper two share. -/
theorem merge_assoc_layers :
    ((mapping [("l", sequence [int 1]), ("m", empty)]).merge
        (mapping [("m", mapping [("k", int 2)]), ("n", int 3)])).merge
      (mapping [("n", null), ("m", mapping [("j", null), ("k", int 4)]), ("l", sequence [int 5])]) =
    mapping [("l", sequence [int 1, int 5]), ("m", mapping [("k", int 4), ("j", null)]),
      ("n", null)] ∧
    (mapping [("l", sequence [int 1]), ("m", empty)]).merge
      ((mapping [("m", mapping [("k", int 2)]), ("n", int 3)]).merge
        (mapping [("n", null), ("m", mapping [("j", null), ("k", int 4)]),
          ("l", sequence [int 5])])) =
    mapping [("l", sequence [int 1, int 5]), ("m", mapping [("k", int 4), ("j", null)]),
      ("n", null)] := by
  have hempty (es : Entries Value) : Compatible empty (mapping es) :=
    compatible_mapping_of_forall (List.forall_mem_nil _)
  have hshared : Compatible (mapping [("k", int 2)]) (mapping [("j", null), ("k", int 4)]) :=
    compatible_mapping_of_forall (by simpa using .scalars rfl rfl)
  have hassoc := merge_assoc (a := mapping [("l", sequence [int 1]), ("m", empty)])
    (b := mapping [("m", mapping [("k", int 2)]), ("n", int 3)])
    (c := mapping [("n", null), ("m", mapping [("j", null), ("k", int 4)]),
      ("l", sequence [int 5])])
    (by decide) (by decide) (by decide)
    (compatible_mapping_of_forall (by simpa using hempty _))
    (compatible_mapping_of_forall (by simpa using ⟨hshared, .scalars rfl rfl⟩))
    (compatible_mapping_of_forall (by simpa using ⟨.sequences _ _, hempty _⟩))
  exact ⟨rfl, hassoc.symm.trans rfl⟩

end Value

end PathBag
