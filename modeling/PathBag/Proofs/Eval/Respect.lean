import PathBag.Bag.Access
import PathBag.Proofs.Code.Faults

/-!
# Evaluation respects every congruence

Evaluation hands on the outcomes of its parts and catches nothing but lookup misses, and those only
where a key is asked for with a default.  So for every congruence `R`, evaluation against two
readers whose answers are related by `R` gives outcomes related by `R`:

* `Alike.expr` for expressions and `Alike.text` for texts with markers, against alike readers;
* `Congruence.evalWith` for values and `Congruence.walk` for the nodes at paths, with related
  evaluations of strings;
* `Congruence.reader` for the value at a key.
-/

namespace PathBag

variable {R : (α : Type) → Except Fault α → Except Fault α → Prop}

/-- Two readers whose answers, once misses are turned into defaults, are related by `R`. -/
structure Alike (R : (α : Type) → Except Fault α → Except Fault α → Prop) (read read' : Lookup) :
    Prop where
  get : ∀ key default, R Value (read.get key default) (read'.get key default)
  has : ∀ key, R Bool (read.has key) (read'.has key)

namespace Alike

variable {read read' : Lookup}

theorem of_orDefault (h : ∀ {α : Type} (f : Value → α) (default : α) (key : String),
    R α (orDefault f default (read key)) (orDefault f default (read' key))) :
    Alike R read read' where
  get key default := by
    rw [Lookup.get, Lookup.get, Lookup.getAs_eq, Lookup.getAs_eq]
    exact h _ default key
  has key := by
    rw [Lookup.has, Lookup.has, Lookup.hasAs_eq, Lookup.hasAs_eq]
    exact h _ false key

/-! ### Expressions -/

theorem builtin (hR : Congruence R) (h : Alike R read read') (name : String) (f : Code.Builtin)
    (vs : List Value) : R Value (f.apply read name vs) (f.apply read' name vs) := by
  fun_cases Code.Builtin.apply read name f vs with
  | case1 v => exact hR.refl (Code.length_neverMisses v)
  | case8 v => exact hR.map (h.has v.render) Value.bool
  | case9 v => exact h.get v.render .null
  | case10 v fallback => exact h.get v.render fallback
  | case12 f vs =>
    rw [Code.Builtin.apply.eq_12]
    · exact hR.loud rfl
    all_goals assumption
  | _ => exact hR.ok _

theorem call (hR : Congruence R) (h : Alike R read read') (name : String) (vs : List Value) :
    R Value (Code.Builtin.call read name vs) (Code.Builtin.call read' name vs) := by
  unfold Code.Builtin.call
  split
  · exact h.builtin hR name _ vs
  · exact hR.loud rfl

mutual

theorem expr (hR : Congruence R) (h : Alike R read read') :
    ∀ e : Code.Expr, R Value (e.eval read) (e.eval read')
  | .literal v => hR.ok v
  | .list items => hR.map (exprs hR h items) Value.sequence
  | .path segments => h.get segments.toKey .null
  | .unary op operand =>
    hR.bind (expr hR h operand) fun v => hR.refl (Code.unaryOp_neverMisses op v)
  | .binary op left right => hR.bind (expr hR h left) fun v => by
    split
    · exact hR.ok _
    · exact hR.bind (expr hR h right) fun w => hR.refl (Code.binaryOp_neverMisses op v w)
  | .cond condition yes no => hR.bind (expr hR h condition) fun v => by
    split
    · exact expr hR h yes
    · exact expr hR h no
  | .call name arguments => hR.bind (exprs hR h arguments) fun vs => h.call hR name vs

theorem exprs (hR : Congruence R) (h : Alike R read read') :
    ∀ es : List Code.Expr, R (List Value) (Code.evalAll read es) (Code.evalAll read' es)
  | [] => hR.ok []
  | e :: es => hR.bind (expr hR h e) fun v => hR.bind (exprs hR h es) fun vs => hR.ok (v :: vs)

end

/-! ### Texts with markers -/

theorem substitute (hR : Congruence R) {f g : List Char → Except Fault Value}
    (hfg : ∀ body, R Value (f body) (g body)) (ps : List Marker.Piece) :
    R (List Char) (Marker.substitute f ps) (Marker.substitute g ps) := by
  induction ps with
  | nil => exact hR.ok []
  | cons p ps ih =>
    cases p with
    | plain c => exact hR.bind ih fun cs => hR.ok (c :: cs)
    | marker body =>
      exact hR.bind (hfg body) fun v => hR.bind ih fun cs => hR.ok (v.render.toList ++ cs)

section Text

variable (hR : Congruence R) (h : Alike R read read')

include h

theorem referenceValue (body : List Char) :
    R Value (Marker.referenceValue read body) (Marker.referenceValue read' body) :=
  h.get _ _

theorem placeholderValue (body : List Char) :
    R Value (Marker.placeholderValue read body) (Marker.placeholderValue read' body) := by
  unfold Marker.placeholderValue
  split <;> exact h.get _ _

include hR

theorem code (cs : List Char) : R Value (Marker.evalCode read cs) (Marker.evalCode read' cs) := by
  unfold Marker.evalCode
  split
  · exact hR.bind (hR.refl (Code.parse_neverMisses _)) fun e => h.expr hR e
  · exact hR.ok _

theorem placeholders (cs : List Char) :
    R Value (Marker.evalPlaceholders read cs) (Marker.evalPlaceholders read' cs) := by
  unfold Marker.evalPlaceholders
  split
  · exact h.placeholderValue _
  · exact hR.bind (substitute hR h.placeholderValue _) fun cs => h.code hR cs

theorem references (rounds : Nat) (cs : List Char) :
    R Value (Marker.evalReferences read rounds cs) (Marker.evalReferences read' rounds cs) := by
  induction rounds generalizing cs with
  | zero =>
    unfold Marker.evalReferences
    split
    · exact h.referenceValue _
    · split
      · exact hR.loud rfl
      · exact h.placeholders hR cs
  | succ rounds ih =>
    unfold Marker.evalReferences
    split
    · exact h.referenceValue _
    · split
      · exact hR.bind (substitute hR h.referenceValue _) ih
      · exact h.placeholders hR cs

theorem text (text : String) : R Value (Marker.eval read text) (Marker.eval read' text) :=
  h.references hR _ _

end Text

end Alike

/-! ### Values and nodes -/

namespace Congruence

variable {ev ev' : String → Except Fault Value}

mutual

theorem evalWith (hR : Congruence R) (hev : ∀ s, R Value (ev s) (ev' s)) :
    ∀ v, R Value (Live.evalWith ev v) (Live.evalWith ev' v)
  | .null | .bool _ | .int _ | .float _ => hR.ok _
  | .string s => hev (Text.trim s)
  | .sequence xs => hR.map (evalItems hR hev xs) Value.sequence
  | .mapping es => hR.map (evalEntries hR hev es) Value.mapping

theorem evalItems (hR : Congruence R) (hev : ∀ s, R Value (ev s) (ev' s)) :
    ∀ xs, R (List Value) (Live.evalItems ev xs) (Live.evalItems ev' xs)
  | [] => hR.ok []
  | x :: xs => hR.bind (evalWith hR hev x) fun v =>
    hR.bind (evalItems hR hev xs) fun vs => hR.ok (v :: vs)

theorem evalEntries (hR : Congruence R) (hev : ∀ s, R Value (ev s) (ev' s)) :
    ∀ es, R (List (String × Value)) (Live.evalEntries ev es) (Live.evalEntries ev' es)
  | [] => hR.ok []
  | (name, x) :: es => hR.bind (evalWith hR hev x) fun v =>
    hR.bind (evalEntries hR hev es) fun vs => hR.ok ((name, v) :: vs)

end

section Walk

variable (hR : Congruence R) (hev : ∀ s, R Value (ev s) (ev' s)) {key key' : String}

include hR hev

theorem computedChild {segment : String}
    (hmiss : R Value (.error (.noValue key segment)) (.error (.noValue key' segment)))
    (es : List (String × Value)) :
    R Value (Live.computedChild ev key segment es) (Live.computedChild ev' key' segment es) := by
  induction es with
  | nil => exact hmiss
  | cons e es ih =>
    unfold Live.computedChild
    split
    · refine hR.bind (hev e.1) fun name => ?_
      split
      · exact hR.ok _
      · exact ih
    · exact ih

theorem findChild {segment : String}
    (hmiss : R Value (.error (.noValue key segment)) (.error (.noValue key' segment)))
    (v : Value) : R Value (Live.findChild ev key segment v) (Live.findChild ev' key' segment v) := by
  unfold Live.findChild
  split
  · exact hR.ok _
  · exact hR.computedChild hev hmiss _
  · exact hmiss

/-- The misses of a walk are those of the segments of its path. -/
theorem walk {path : Path}
    (hmiss : ∀ segment ∈ path,
      R Value (.error (.noValue key segment)) (.error (.noValue key' segment)))
    (v : Value) : R Value (Live.walk ev key path v) (Live.walk ev' key' path v) := by
  induction path generalizing v with
  | nil => exact hR.ok v
  | cons segment path ih =>
    have hchild := hR.findChild hev (hmiss segment List.mem_cons_self) v
    cases path with
    | nil => exact hchild
    | cons next path =>
      have hrest := ih fun s hs => hmiss s (List.mem_cons_of_mem _ hs)
      refine hR.bind hchild fun child => ?_
      split
      · next s => exact hR.bind (hev (Text.trim s)) hrest
      · exact hrest child

end Walk

end Congruence

/-! ### Reading with levels left -/

namespace Live

/-- The stored value at a key, read with `levels` levels left. -/
def rawReader (tree : Value) (levels : Nat) : Lookup := fun key =>
  walk (evalText tree levels) key (Path.ofKey key) tree

/-- The evaluated value at a key, read with `levels` levels left. -/
def reader (tree : Value) (levels : Nat) : Lookup := readWith (evalText tree levels) tree

/-- The value at a key is that of the stored value. -/
theorem reader_eq_bind (tree : Value) (levels : Nat) (key : String) :
    reader tree levels key = rawReader tree levels key >>= evalWith (evalText tree levels) := rfl

end Live

namespace Congruence

variable (hR : Congruence R) {tree : Value} {levels levels' : Nat} {key : String}
  (hev : ∀ text, R Value (Live.evalText tree levels text) (Live.evalText tree levels' text))
  (hmiss : ∀ segment ∈ Path.ofKey key,
    R Value (.error (.noValue key segment)) (.error (.noValue key segment)))

include hR hev hmiss

theorem rawReader : R Value (Live.rawReader tree levels key) (Live.rawReader tree levels' key) :=
  hR.walk hev hmiss tree

theorem reader : R Value (Live.reader tree levels key) (Live.reader tree levels' key) :=
  hR.bind (hR.walk hev hmiss tree) fun v => hR.evalWith hev v

end Congruence

end PathBag
