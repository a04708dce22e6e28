import PathBag.Proofs.Bag.Inert
import PathBag.Proofs.Tree.Distinct

/-!
# What a write touches

A live write goes down its path level by level: it puts the value of an expression in its place,
makes room for the next segment, and may stop at a fault anywhere on the way, with some entries of
a mapping written and others not.

* `node?_write_of_diverges`: wherever it stops, what stood off its path stands there still;
* `node?_leaf_of_set`: when it gets to its end, every leaf of the value stands in its place, and a
  value that is written in one piece is what the key reads.

Both rest on the same step lemmas: forcing an expression takes away nothing, since nothing stands
below a string, and making room takes away nothing either.
-/

namespace PathBag

/-! ### Edits one after the other -/

namespace Edited

variable {α : Type}

/-- What one edit leaves and the next one keeps is so wherever the two together stop. -/
theorem result_andThen {P : α → Prop} {e : Edited α} {next : α → Edited α} (he : P e.result)
    (hnext : P e.result → P (next e.result).result) : P (e.andThen next).result := by
  obtain ⟨a, _ | fault⟩ := e
  · exact hnext he
  · exact he

theorem of_andThen_eq_done {e : Edited α} {next : α → Edited α} {b : α}
    (h : e.andThen next = .done b) : ∃ a, e = .done a ∧ next a = .done b := by
  obtain ⟨a, _ | fault⟩ := e
  · exact ⟨a, rfl, h⟩
  · cases h

theorem of_map_eq_done {β : Type} {e : Edited α} {f : α → β} {b : β} (h : e.map f = .done b) :
    ∃ a, e = .done a ∧ f a = b := by
  obtain ⟨a, _ | fault⟩ := e
  · cases h
    exact ⟨a, rfl, rfl⟩
  · cases h

theorem of_toExcept_eq_ok {e : Edited α} {a : α} (h : e.toExcept = .ok a) : e = .done a := by
  obtain ⟨b, _ | fault⟩ := e
  · cases h
    rfl
  · cases h

end Edited

namespace Path

/-- What diverges from a path diverges from every path that leads on from it. -/
theorem Diverges.append_left {p q : Path} (h : p.Diverges q) (r : Path) : (p ++ r).Diverges q := by
  refine ⟨fun hpq => h.1 ((List.prefix_append p r).trans hpq), fun hqp => ?_⟩
  rcases List.prefix_or_prefix_of_prefix hqp (List.prefix_append p r) with hq | hp
  · exact h.2 hq
  · exact h.1 hp

theorem diverges_append_cons {s s' : String} (h : s ≠ s') (p q r : Path) :
    Diverges (p ++ s :: q) (p ++ s' :: r) := by
  simp [Diverges, List.prefix_append_right_inj, List.cons_prefix_cons, h, Ne.symm h]

end Path

namespace Value

/-- Making room at a path takes nothing away elsewhere. -/
theorem node?_alter_id {p q : Path} {w tree : Value} (hp : ¬ q <+: p)
    (hw : tree.node? q = some w) : (tree.alter p id).node? q = some w := by
  by_cases hpq : p <+: q
  · obtain ⟨r, rfl⟩ := hpq
    rw [node?_append] at hw
    obtain ⟨u, hu, hr⟩ := Option.bind_eq_some_iff.1 hw
    rw [node?_alter_append, hu]
    exact hr
  · rw [node?_alter_of_diverges ⟨hpq, hp⟩, hw]

end Value

namespace Live

open Value

/-! ### Values taken apart -/

/-- Writing a value in one piece keeps a property of the tree, if the value fits its path.  Where a
mapping fits, its contents fit below it. -/
structure Keeps (P : Value → Prop) (Fits : Path → Value → Prop) : Prop where
  entry : ∀ {path : Path} {es : List (String × Value)}, Fits path (.mapping es) →
    ∀ e ∈ es, Fits (path ++ [e.1]) e.2
  leaf : ∀ {path : Path} {v tree : Value} (merging : Bool), Fits path v → P tree →
    P (writeLeaf path merging v tree).result

namespace Keeps

variable {P : Value → Prop} {Fits : Path → Value → Prop}

mutual

/-- What every leaf keeps is kept by a whole write, wherever it stops. -/
theorem result_write (hkeeps : Keeps P Fits) (merging : Bool) :
    ∀ (v : Value) {path : Path} {tree : Value}, Fits path v → P tree →
    P (write path merging v tree).result
  | .mapping es, path, tree, hv, h => by
    rw [write]
    split
    · exact hkeeps.leaf merging hv h
    · exact hkeeps.result_writeEntries es (hkeeps.entry hv) h
  | .null, _, _, hv, h | .bool _, _, _, hv, h | .int _, _, _, hv, h | .float _, _, _, hv, h
  | .string _, _, _, hv, h | .sequence _, _, _, hv, h => hkeeps.leaf merging hv h

theorem result_writeEntries (hkeeps : Keeps P Fits) :
    ∀ (es : List (String × Value)) {path : Path} {tree : Value},
    (∀ e ∈ es, Fits (path ++ [e.1]) e.2) → P tree → P (writeEntries path es tree).result
  | [], _, _, _, h => h
  | (name, v) :: es, path, tree, hes, h => by
    obtain ⟨hv, hes⟩ := List.forall_mem_cons.1 hes
    exact Edited.result_andThen (hkeeps.result_write false v hv h)
      (hkeeps.result_writeEntries es hes)

end

end Keeps

/-! ### Beside the path -/

section Beside

variable {path q : Path} {w : Value}

theorem node?_force {above : Path} {tree : Value} (hq : ¬ q <+: above)
    (hw : tree.node? q = some w) : (force above tree).result.node? q = some w := by
  unfold force
  split
  · next s hs =>
    split
    · split
      · next v _ =>
        have hbelow : ¬ above <+: q := by
          rintro ⟨r, rfl⟩
          rw [node?_append, hs, Option.bind_some] at hw
          obtain rfl := eq_nil_of_node?_string hw
          exact hq (by simp)
        exact (node?_alter_of_diverges ⟨hbelow, hq⟩ _ _).trans hw
      · exact hw
    · exact hw
  · exact hw

theorem node?_clear {above below : Path} {tree : Value} (hq : ¬ q <+: above ++ below)
    (hw : tree.node? q = some w) : (clear above below tree).result.node? q = some w := by
  induction below generalizing above tree with
  | nil => exact hw
  | cons segment below ih =>
    have habove : ¬ q <+: above := fun h => hq (h.trans (List.prefix_append _ _))
    rw [List.append_cons] at hq
    have hroom : ¬ q <+: above ++ [segment] := fun h => hq (h.trans (List.prefix_append _ _))
    refine Edited.result_andThen (P := fun t : Value => t.node? q = some w)
      (node?_force habove hw) ?_
    exact fun hforced => ih hq (node?_alter_id hroom hforced)

theorem node?_writeLeaf (hq : path.Diverges q) {tree : Value} (hw : tree.node? q = some w)
    (merging : Bool) (v : Value) : (writeLeaf path merging v tree).result.node? q = some w := by
  refine Edited.result_andThen (P := fun t : Value => t.node? q = some w) (node?_clear hq.2 hw) ?_
  exact fun hclear => (node?_alter_of_diverges hq _ _).trans hclear

theorem keeps_node? : Keeps (fun t => t.node? q = some w) fun path _ => path.Diverges q where
  entry hq e _ := hq.append_left [e.1]
  leaf merging hq hw := node?_writeLeaf hq hw merging _

end Beside

end Live

/-- **A write keeps what is off its path.**  Whether it gets to its end or stops at a fault half
way, a node at a path that diverges from the path of the key is the node that stood there. -/
theorem Bag.node?_write_of_diverges (b : Bag) (key : String) (merging : Bool) (v : Value)
    {q : Path} {w : Value} (hq : (Path.ofKey key).Diverges q) (hw : b.tree.node? q = some w) :
    (b.write key merging v).result.tree.node? q = some w := by
  obtain ⟨mode, tree⟩ := b
  cases mode with
  | plain => exact (Value.node?_alter_of_diverges hq _ _).trans hw
  | live => exact Live.keeps_node?.result_write merging v hq hw

/-- Of two entries one is written, and the other stops at code that cannot be read. -/
theorem Bag.node?_write_of_diverges_stopped :
    ((⟨.live, .mapping [("m", .mapping [("a", .string "\x7b% ) %\x7d")]),
        ("keep", .sequence [.null, .int 7])]⟩ : Bag).write "m" true
          (.mapping [("x", .int 1), ("a", .mapping [("b", .int 2)])])).stopped.isSome = true ∧
    ((⟨.live, .mapping [("m", .mapping [("a", .string "\x7b% ) %\x7d")]),
        ("keep", .sequence [.null, .int 7])]⟩ : Bag).write "m" true
          (.mapping [("x", .int 1), ("a", .mapping [("b", .int 2)])])).result.tree.node?
      ["keep", "1"] = some (.int 7) :=
  ⟨by decide +kernel, Bag.node?_write_of_diverges _ "m" true _ (by decide) rfl⟩

namespace Value

/-! ### At the path -/

/-- `w` is the leaf of a value at a path: the value itself if it is written in one piece, else a
leaf of the content of an entry. -/
inductive Leaf : Value → Path → Value → Prop
  | whole {v : Value} : v.InOnePiece → Leaf v [] v
  | entry {es : List (String × Value)} {name : String} {x : Value} {path : Path} {w : Value} :
      (name, x) ∈ es → Leaf x path w → Leaf (mapping es) (name :: path) w

end Value

namespace Live

open Value

theorem node?_of_writeLeaf_eq_done {path : Path} {v tree tree' : Value}
    (h : writeLeaf path false v tree = .done tree') : tree'.node? path = some v := by
  obtain ⟨cleared, -, hdone⟩ := Edited.of_andThen_eq_done h
  cases hdone
  exact node?_alter_self path _ cleared

theorem write_of_inOnePiece {v : Value} (hv : v.InOnePiece) (path : Path) (merging : Bool)
    (tree : Value) : write path merging v tree = writeLeaf path merging v tree := by
  cases v with
  | mapping es =>
    cases es with
    | nil => rfl
    | cons e es => exact hv.elim
  | _ => rfl

/-- Every entry of a mapping has its turn, after which only entries of other names follow. -/
theorem write_of_mem {es : List (String × Value)} {name : String} {x : Value}
    (hmem : (name, x) ∈ es) (hes : (Entries.names es).Nodup) {path : Path} {tree tree' : Value}
    (h : writeEntries path es tree = .done tree') :
    ∃ before after rest, write (path ++ [name]) false x before = .done after ∧
      writeEntries path rest after = .done tree' ∧ ∀ e ∈ rest, e.1 ≠ name := by
  induction es generalizing tree with
  | nil => cases hmem
  | cons e es ih =>
    obtain ⟨hname, hes⟩ := List.nodup_cons.1 hes
    obtain ⟨after, hwrite, hrest⟩ := Edited.of_andThen_eq_done h
    rcases List.mem_cons.1 hmem with rfl | hmem
    · refine ⟨tree, after, es, hwrite, hrest, fun e he hne => hname ?_⟩
      exact List.mem_map.2 ⟨e, he, hne⟩
    · exact ih hmem hes hrest

theorem node?_leaf_of_write {v w : Value} {r : Path} (hleaf : v.Leaf r w) (hv : v.Distinct)
    {path : Path} {tree tree' : Value} (h : write path false v tree = .done tree') :
    tree'.node? (path ++ r) = some w := by
  induction hleaf generalizing path tree tree' with
  | whole hpiece =>
    rw [write_of_inOnePiece hpiece] at h
    rw [List.append_nil]
    exact node?_of_writeLeaf_eq_done h
  | @entry es name x r w hmem hleaf ih =>
    obtain ⟨hnames, hcontents⟩ := (distinct_mapping es).1 hv
    rw [write, if_neg (by simpa using List.ne_nil_of_mem hmem)] at h
    obtain ⟨before, after, rest, hwrite, hrest, hne⟩ := write_of_mem hmem hnames h
    have hafter : after.node? (path ++ name :: r) = some w := by
      simpa using ih (hcontents _ hmem) hwrite
    -- the entries that follow are written beside this one
    have hbeside : ∀ e ∈ rest, Path.Diverges (path ++ [e.1]) (path ++ name :: r) :=
      fun e he => Path.diverges_append_cons (hne e he) path [] r
    have hkept := keeps_node?.result_writeEntries rest hbeside hafter
    rwa [hrest] at hkept

end Live

/-- **What is set is there.**  When setting a value gets to its end, every leaf of the value stands
below the key in its place, and a value in one piece is what the key reads: as it is in the raw,
and else with its strings evaluated against the new tree. -/
theorem Bag.node?_leaf_of_set {t : Value} {key : String} {v : Value} (hv : v.Distinct) {b : Bag}
    (h : (⟨.live, t⟩ : Bag).set key v = .done b) :
    (∀ r w, v.Leaf r w → b.tree.node? (Path.ofKey key ++ r) = some w) ∧
    (v.InOnePiece → b.readRaw key = .ok v ∧ b.read key = Live.eval b.tree v) := by
  obtain ⟨tree', hwrite, rfl⟩ := Edited.of_map_eq_done h
  refine ⟨fun r w hleaf => Live.node?_leaf_of_write hleaf hv hwrite, fun hpiece => ?_⟩
  have hnode : tree'.node? (Path.ofKey key) = some v := by
    simpa using Live.node?_leaf_of_write (.whole hpiece) hv hwrite
  have hwalk : Live.walk (Live.evalString tree') key (Path.ofKey key) tree' = .ok v :=
    Live.walk_of_node? _ key hnode
  refine ⟨hwalk, ?_⟩
  show Live.readWith (Live.evalString tree') tree' key = _
  rw [Live.readWith, hwalk]
  rfl

/-- A reference on the way gives way to its value.  Where a name would have answered as an
expression, the new entry does, and what it holds may be an expression itself. -/
theorem Bag.node?_leaf_of_set_forced :
    (⟨.live, .mapping [("a", .string "$\x7bm\x7d"), ("m", .mapping [("x", .int 1)])]⟩ : Bag).set
        "a" (.mapping [("y", .mapping [("z", .int 5)]), ("l", .sequence [])]) =
      .done ⟨.live, .mapping
        [("a", .mapping [("x", .int 1), ("y", .mapping [("z", .int 5)]), ("l", .sequence [])]),
          ("m", .mapping [("x", .int 1)])]⟩ ∧
    (Value.mapping
      [("a", .mapping [("x", .int 1), ("y", .mapping [("z", .int 5)]), ("l", .sequence [])]),
        ("m", .mapping [("x", .int 1)])]).node? ["a", "y", "z"] = some (.int 5) ∧
    (⟨.live, .mapping [("m", .int 1), ("$\x7bk\x7d", .null), ("k", .string "n")]⟩ : Bag).set "n"
        (.string " $\x7bm\x7d ") =
      .done ⟨.live, .mapping [("m", .int 1), ("$\x7bk\x7d", .null), ("k", .string "n"),
        ("n", .string " $\x7bm\x7d ")]⟩ ∧
    (⟨.live, .mapping [("m", .int 1), ("$\x7bk\x7d", .null), ("k", .string "n"),
        ("n", .string " $\x7bm\x7d ")]⟩ : Bag).read "n" = .ok (.int 1) := by
  have leaf (b : Bag) (h : (⟨.live, .mapping [("a", .string "$\x7bm\x7d"),
      ("m", .mapping [("x", .int 1)])]⟩ : Bag).set "a"
        (.mapping [("y", .mapping [("z", .int 5)]), ("l", .sequence [])]) = .done b) :
      b.tree.node? ["a", "y", "z"] = some (.int 5) :=
    (Bag.node?_leaf_of_set (by decide) h).1 ["y", "z"] _
      (.entry List.mem_cons_self (.entry List.mem_cons_self (.whole trivial)))
  have reading (b : Bag) (h : (⟨.live, .mapping [("m", .int 1), ("$\x7bk\x7d", .null),
      ("k", .string "n")]⟩ : Bag).set "n" (.string " $\x7bm\x7d ") = .done b) :
      b.read "n" = Live.eval b.tree (.string " $\x7bm\x7d ") :=
    ((Bag.node?_leaf_of_set (by decide) h).2 trivial).2
  exact ⟨rfl, leaf ⟨.live, _⟩ rfl, rfl, reading ⟨.live, _⟩ rfl⟩

end PathBag
