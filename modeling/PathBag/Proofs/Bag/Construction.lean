import PathBag.Proofs.Bag.Writes
import PathBag.Proofs.Tree.Keys
import PathBag.Proofs.Tree.Merge

/-!
# Bags made from entries

A bag is made by merging one entry after the other into the bag without data.  As long as the keys
lead to places apart from each other, each entry comes to a place that is still vacant: nothing
stands there, and no string on the way (`Vacant`).  A write to such a place forces nothing and cannot
stop, and it puts the value there as it is, whether in one piece or entry by entry
(`write_of_vacant`).  So plain and live bags are made alike (`add_of_vacant`), and nothing of the
entries is lost (`ofEntries_of_diverging`).
-/

namespace PathBag

theorem Path.Diverges.symm {p q : Path} (h : p.Diverges q) : q.Diverges p := ⟨h.2, h.1⟩

/-! ### Vacant places -/

/-- At the path stands nothing, or an empty mapping, and no string stands above it. -/
structure Path.Vacant (path : Path) (tree : Value) : Prop where
  slot : (tree.node? path).getD .empty = .empty
  above : ∀ q, q <+: path → q ≠ path → ∀ s, tree.node? q ≠ some (.string s)

namespace Path.Vacant

open Value

variable {path q : Path} {tree : Value}

theorem of_empty (path : Path) : path.Vacant .empty where
  slot := by cases path <;> rfl
  above q _ _ s h := by cases q <;> cases h

/-- A place stays vacant when something is written beside it. -/
theorem alter (h : path.Vacant tree) (hq : path.Diverges q) (f : Value → Value) :
    path.Vacant (tree.alter q f) where
  slot := by rw [node?_alter_of_diverges hq.symm, h.slot]
  above r hr hne s hs := by
    by_cases hrq : r <+: q
    · have hne' : r ≠ q := fun heq => hq.2 (heq ▸ hr)
      exact node?_alter_above_ne_string hrq hne' f tree s hs
    · have hbeside : q.Diverges r := ⟨fun hle => hq.2 (hle.trans hr), hrq⟩
      rw [node?_alter_of_diverges hbeside] at hs
      exact h.above r hr hne s hs

/-- A name that a mapping does not have is vacant below it. -/
theorem concat {es : Entries Value} {name : String}
    (hslot : (tree.node? path).getD empty = mapping es) (hname : name ∉ es.names)
    (habove : ∀ q, q <+: path → q ≠ path → ∀ s, tree.node? q ≠ some (string s)) :
    (path ++ [name]).Vacant tree where
  slot := by
    have hnone : (mapping es).child? name = none := Entries.find?_eq_none_iff.2 hname
    rw [node?_append]
    cases hnode : tree.node? path with
    | none => rfl
    | some node =>
      obtain rfl : node = mapping es := by simpa [hnode] using hslot
      rw [Option.bind_some, node?_cons, hnone]
      rfl
  above q hq hne s hs := by
    rcases List.prefix_concat_iff.1 hq with rfl | hq
    · exact hne rfl
    · by_cases heq : q = path
      · subst heq
        rw [hs] at hslot
        cases hslot
      · exact habove q hq heq s hs

theorem unforced (h : path.Vacant tree) : Live.Unforced [] path tree :=
  fun r hr hne s hs => absurd hs (h.above r hr hne s)

/-- To lay a value over a vacant place is to put it there. -/
theorem alter_merge (h : path.Vacant tree) (merging : Bool) (v : Value) :
    (tree.alter path fun slot => if merging then slot.merge v else v) =
      tree.alter path fun _ => v := by
  refine alter_congr ?_
  rw [h.slot, empty_merge, ite_self]

end Path.Vacant

/-! ### Writing to a vacant place -/

namespace Live

open Value

/-- One more entry behind those that were just written. -/
theorem alter_concat {es : Entries Value} {name : String} (hname : name ∉ es.names) (v : Value)
    {path : Path} {tree : Value} (hslot : (tree.node? path).getD empty = mapping es) :
    (tree.alter (path ++ [name]) fun _ => v) = tree.alter path fun _ => mapping (es ++ [(name, v)]) := by
  rw [alter_append]
  refine alter_congr ?_
  rw [hslot, alter_cons, alterChild, Entries.upsert_of_notMem hname]
  rfl

mutual

theorem write_of_vacant (merging : Bool) : ∀ (v : Value) {path : Path} {tree : Value},
    v.Distinct → path.Vacant tree →
    write path merging v tree = .done (tree.alter path fun _ => v)
  | .mapping ((name, x) :: es), path, tree, hv, hpath => by
    obtain ⟨hnames, hcontents⟩ := (distinct_mapping _).1 hv
    obtain ⟨hx, hes⟩ := List.forall_mem_cons.1 hcontents
    have hname : name ∉ Entries.names ([] : Entries Value) := List.not_mem_nil
    have hnames : (Entries.names ([(name, x)] ++ es)).Nodup := hnames
    have hfirst : (path ++ [name]).Vacant tree := .concat hpath.slot hname hpath.above
    have hentries : writeEntries path ((name, x) :: es) tree =
        .done (tree.alter path fun _ => mapping ((name, x) :: es)) := by
      rw [writeEntries, write_of_vacant false x hx hfirst, Edited.done_andThen,
        alter_concat hname x hpath.slot]
      exact writeEntries_of_names es hnames hes
    exact hentries
  | .mapping [], _, _, _, hpath | .null, _, _, _, hpath | .bool _, _, _, _, hpath
  | .int _, _, _, _, hpath | .float _, _, _, _, hpath | .string _, _, _, _, hpath
  | .sequence _, _, _, _, hpath =>
    (writeLeaf_of_unforced hpath.unforced merging _).trans
      (congrArg Edited.done (hpath.alter_merge merging _))

/-- Entries of new names go in one after the other behind those that are there. -/
theorem writeEntries_of_names : ∀ (es : List (String × Value)) {before : Entries Value}
    {path : Path} {tree : Value}, (Entries.names (before ++ es)).Nodup → (∀ e ∈ es, e.2.Distinct) →
    writeEntries path es (tree.alter path fun _ => mapping before) =
      .done (tree.alter path fun _ => mapping (before ++ es))
  | [], before, path, tree, _, _ => by rw [writeEntries, List.append_nil]
  | (name, x) :: es, before, path, tree, hnames, hcontents => by
    obtain ⟨hx, hes⟩ := List.forall_mem_cons.1 hcontents
    have hname : name ∉ Entries.names before := Entries.notMem_names_of_nodup hnames
    have hslot : ((tree.alter path fun _ => mapping before).node? path).getD empty =
        mapping before := by rw [node?_alter_self, Option.getD_some]
    have hnext : (path ++ [name]).Vacant (tree.alter path fun _ => mapping before) :=
      .concat hslot hname fun q hq hne s => node?_alter_above_ne_string hq hne _ tree s
    rw [writeEntries, write_of_vacant false x hx hnext, Edited.done_andThen,
      alter_concat hname x hslot, alter_alter, List.append_cons before (name, x) es]
    exact writeEntries_of_names es (by rwa [← List.append_cons]) hes

end

end Live

/-! ### Adding entries to plain bags -/

/-- The tree with entries laid over it one by one, their names taken as keys. -/
def Plain.addEntries : List (String × Value) → Value → Value
  | [], t => t
  | (key, v) :: es, t => addEntries es (write (Path.ofKey key) true v t)

namespace Bag

/-- Adding entries to a plain bag goes through to the end. -/
theorem add_plain (es : List (String × Value)) (t : Value) :
    (⟨.plain, t⟩ : Bag).add es = .done ⟨.plain, Plain.addEntries es t⟩ := by
  induction es generalizing t with
  | nil => rfl
  | cons e es ih => exact ih (Plain.write (Path.ofKey e.1) true e.2 t)

theorem ofEntries_plain (es : List (String × Value)) :
    ofEntries .plain es = .ok ⟨.plain, Plain.addEntries es .empty⟩ := by
  rw [ofEntries, empty, add_plain]
  rfl

end Bag

/-! ### Adding entries at vacant places -/

namespace Value

/-- The tree with values at the places of their keys. -/
def graft : List (String × Value) → Value → Value
  | [], t => t
  | (key, v) :: es, t => graft es (t.alter (Path.ofKey key) fun _ => v)

theorem node?_graft_of_diverges {es : List (String × Value)} {q : Path}
    (h : ∀ e ∈ es, (Path.ofKey e.1).Diverges q) (t : Value) :
    (graft es t).node? q = t.node? q := by
  induction es generalizing t with
  | nil => rfl
  | cons e es ih =>
    obtain ⟨he, hes⟩ := List.forall_mem_cons.1 h
    rw [graft, ih hes, node?_alter_of_diverges he]

/-- Apart from each other, all the values come to their places. -/
theorem node?_graft_of_mem {es : List (String × Value)}
    (hes : es.Pairwise fun e e' => (Path.ofKey e.1).Diverges (Path.ofKey e'.1))
    {e : String × Value} (he : e ∈ es) (t : Value) :
    (graft es t).node? (Path.ofKey e.1) = some e.2 := by
  induction es generalizing t with
  | nil => cases he
  | cons e' es ih =>
    obtain ⟨hbeside, hes⟩ := List.pairwise_cons.1 hes
    rw [graft]
    rcases List.mem_cons.1 he with rfl | he
    · rw [node?_graft_of_diverges fun e he => (hbeside e he).symm, node?_alter_self]
    · exact ih hes he _

/-- Under plain keys of new names the values become entries, in order. -/
theorem graft_mapping {es : List (String × Value)}
    (hplain : ∀ e ∈ es, e.1 ≠ "" ∧ '.' ∉ e.1.toList ∧ '[' ∉ e.1.toList) {before : Entries Value}
    (hnames : (Entries.names (before ++ es)).Nodup) :
    graft es (mapping before) = mapping (before ++ es) := by
  induction es generalizing before with
  | nil => rw [graft, List.append_nil]
  | cons e es ih =>
    obtain ⟨name, v⟩ := e
    obtain ⟨⟨hne, hdot, hbracket⟩, hes⟩ := List.forall_mem_cons.1 hplain
    have hname : name ∉ Entries.names before := Entries.notMem_names_of_nodup hnames
    have hentry : ((mapping before).alter ([] ++ [name]) fun _ => v) =
        mapping (before ++ [(name, v)]) := Live.alter_concat hname v rfl
    rw [graft, Path.ofKey_of_plain hne hdot hbracket, ← List.nil_append [name], hentry,
      List.append_cons before (name, v) es]
    exact ih hes (by rwa [← List.append_cons])

end Value

namespace Bag

/-- A value that comes to a vacant place is put there, in a plain and in a live bag. -/
theorem merge_of_vacant (mode : Mode) {key : String} {v t : Value} (hv : v.Distinct)
    (hvacant : (Path.ofKey key).Vacant t) :
    (⟨mode, t⟩ : Bag).merge key v = .done ⟨mode, t.alter (Path.ofKey key) fun _ => v⟩ := by
  cases mode with
  | plain =>
    have hwrite : Plain.write (Path.ofKey key) true v t = t.alter (Path.ofKey key) fun _ => v :=
      hvacant.alter_merge true v
    rw [merge, write, hwrite]
  | live =>
    rw [merge, write, Live.write_of_vacant true v hv hvacant]
    rfl

theorem add_of_vacant (mode : Mode) {es : List (String × Value)} {t : Value}
    (hdistinct : ∀ e ∈ es, e.2.Distinct)
    (hpaths : es.Pairwise fun e e' => (Path.ofKey e.1).Diverges (Path.ofKey e'.1))
    (hvacant : ∀ e ∈ es, (Path.ofKey e.1).Vacant t) :
    (⟨mode, t⟩ : Bag).add es = .done ⟨mode, Value.graft es t⟩ := by
  induction es generalizing t with
  | nil => rfl
  | cons e es ih =>
    obtain ⟨key, v⟩ := e
    obtain ⟨hv, hdistinct⟩ := List.forall_mem_cons.1 hdistinct
    obtain ⟨hbeside, hpaths⟩ := List.pairwise_cons.1 hpaths
    obtain ⟨hfirst, hvacant⟩ := List.forall_mem_cons.1 hvacant
    rw [add, merge_of_vacant mode hv hfirst, Edited.done_andThen]
    exact ih hdistinct hpaths fun e he => (hvacant e he).alter (hbeside e he).symm _

/-- Different names are places apart from each other. -/
theorem pairwise_diverges_of_plain {es : List (String × Value)} (hnames : (Entries.names es).Nodup)
    (hplain : ∀ e ∈ es, e.1 ≠ "" ∧ '.' ∉ e.1.toList ∧ '[' ∉ e.1.toList) :
    es.Pairwise fun e e' => (Path.ofKey e.1).Diverges (Path.ofKey e'.1) := by
  refine (List.pairwise_map.1 hnames).imp_of_mem fun {e e'} he he' hne => ?_
  obtain ⟨hempty, hdot, hbracket⟩ := hplain e he
  obtain ⟨hempty', hdot', hbracket'⟩ := hplain e' he'
  rw [Path.ofKey_of_plain hempty hdot hbracket, Path.ofKey_of_plain hempty' hdot' hbracket',
    Path.diverges_cons_cons]
  exact .inl hne

/-- **Making a bag loses nothing.**  From entries whose keys lead to places apart from each other a
plain or live bag is always made, whatever markers they hold, and at the place of each key stands
its value.  If the keys are plain names, the tree is the mapping of the entries itself. -/
theorem ofEntries_of_diverging (mode : Mode) {es : List (String × Value)}
    (hes : (Value.mapping es).Distinct) :
    (es.Pairwise (fun e e' => (Path.ofKey e.1).Diverges (Path.ofKey e'.1)) →
      ∃ t, ofEntries mode es = .ok ⟨mode, t⟩ ∧ ∀ e ∈ es, t.node? (Path.ofKey e.1) = some e.2) ∧
    ((∀ e ∈ es, e.1 ≠ "" ∧ '.' ∉ e.1.toList ∧ '[' ∉ e.1.toList) →
      ofEntries mode es = .ok ⟨mode, .mapping es⟩) := by
  obtain ⟨hnames, hdistinct⟩ := (Value.distinct_mapping es).1 hes
  have hmake (hpaths : es.Pairwise fun e e' => (Path.ofKey e.1).Diverges (Path.ofKey e'.1)) :
      ofEntries mode es = .ok ⟨mode, Value.graft es .empty⟩ := by
    rw [ofEntries, empty, add_of_vacant mode hdistinct hpaths fun e _ => .of_empty _]
    rfl
  refine ⟨fun hpaths => ⟨_, hmake hpaths, fun e he => Value.node?_graft_of_mem hpaths he _⟩, ?_⟩
  intro hplain
  have hnames : (Entries.names ([] ++ es)).Nodup := hnames
  have htree : Value.graft es .empty = .mapping es := Value.graft_mapping hplain hnames
  rw [hmake (pairwise_diverges_of_plain hnames hplain), htree]

/-- Two keys share the name above them, and a reference and code that cannot be read are put down as
they are. -/
theorem ofEntries_of_diverging_markers :
    (Value.mapping [("a.b", .mapping [("x", .string "$\x7ba\x7d"), ("y", .empty)]),
      ("a[c]", .sequence [.int 1])]).Distinct ∧
    [("a.b", Value.mapping [("x", .string "$\x7ba\x7d"), ("y", .empty)]),
        ("a[c]", .sequence [.int 1])].Pairwise
      (fun e e' => (Path.ofKey e.1).Diverges (Path.ofKey e'.1)) ∧
    (∃ t, ofEntries .live [("a.b", .mapping [("x", .string "$\x7ba\x7d"), ("y", .empty)]),
        ("a[c]", .sequence [.int 1])] = .ok ⟨.live, t⟩ ∧
      t.node? ["a", "b"] = some (.mapping [("x", .string "$\x7ba\x7d"), ("y", .empty)])) ∧
    ofEntries .live [("\x7b\x7b k \x7d\x7d", .string "\x7b% ) %\x7d"), ("k", .empty)] =
      .ok ⟨.live, .mapping [("\x7b\x7b k \x7d\x7d", .string "\x7b% ) %\x7d"), ("k", .empty)]⟩ := by
  have hes : (Value.mapping [("a.b", .mapping [("x", .string "$\x7ba\x7d"), ("y", .empty)]),
      ("a[c]", .sequence [.int 1])]).Distinct := by decide
  have hpaths : [("a.b", Value.mapping [("x", .string "$\x7ba\x7d"), ("y", .empty)]),
      ("a[c]", .sequence [.int 1])].Pairwise
      (fun e e' => (Path.ofKey e.1).Diverges (Path.ofKey e'.1)) := by decide
  obtain ⟨t, hmade, hnodes⟩ := (ofEntries_of_diverging .live hes).1 hpaths
  refine ⟨hes, hpaths, ⟨t, hmade, hnodes _ List.mem_cons_self⟩, ?_⟩
  exact (ofEntries_of_diverging .live (by decide)).2 (by decide)

end Bag

end PathBag
