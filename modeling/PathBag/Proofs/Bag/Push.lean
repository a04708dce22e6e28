import PathBag.Bag
import PathBag.Proofs.Eval.Inert
import PathBag.Proofs.Eval.Walks
import PathBag.Proofs.Tree.Write

/-!
# Pushing to what a key shows

A push goes down the stored nodes only.  A read goes further: an expression on the way is entered
through its value, and a name that is an expression answers for its value.  So there are two cases.
A sequence that is stored at its key grows.  One that is only shown there, because the path has a
detour (`detour_of_walk`), is hidden by a new sequence of the pushed value alone
(`Bag.readRaw_push`).
-/

namespace PathBag

open Marker (isExpression)

namespace Live

open Value

/-- The name is an expression, and its value has this text. -/
def Computes (ev : String → Except Fault Value) (name text : String) : Prop :=
  isExpression name = true ∧ ∃ v, ev name = .ok v ∧ v.render = text

/-- A read along the path leaves the stored nodes: for some segment a computed name answers, or
before the last segment stands a string that is an expression. -/
inductive Detour (ev : String → Except Fault Value) : Path → Value → Prop where
  | name {segment name : String} {path : Path} {es : Entries Value}
      (absent : (mapping es).child? segment = none) (mem : name ∈ es.names)
      (computes : Computes ev name segment) : Detour ev (segment :: path) (mapping es)
  | string {segment next s : String} {path : Path} {v : Value}
      (child : v.child? segment = some (.string s)) (expression : isExpression s = true) :
      Detour ev (segment :: next :: path) v
  | child {segment : String} {path : Path} {v w : Value} (child : v.child? segment = some w)
      (below : Detour ev path w) : Detour ev (segment :: path) v

variable {ev : String → Except Fault Value} {key segment : String}

theorem exists_computes_of_computedChild {es : Entries Value} {w : Value}
    (h : computedChild ev key segment es = .ok w) : ∃ name ∈ es.names, Computes ev name segment := by
  induction es with
  | nil => cases h
  | cons e es ih =>
    obtain ⟨name, x⟩ := e
    have later (h : computedChild ev key segment es = .ok w) :
        ∃ other ∈ Entries.names ((name, x) :: es), Computes ev other segment := by
      obtain ⟨other, hmem, hother⟩ := ih h
      exact ⟨other, List.mem_cons_of_mem _ hmem, hother⟩
    rw [computedChild] at h
    split at h
    · next hname =>
      obtain ⟨v, hv, h⟩ := exists_of_bind_eq_ok h
      split at h
      · next hrender => exact ⟨name, List.mem_cons_self, hname, v, hv, hrender⟩
      · exact later h
    · exact later h

theorem detour_of_findChild {v w : Value} (hchild : v.child? segment = none)
    (hfind : findChild ev key segment v = .ok w) (path : Path) : Detour ev (segment :: path) v := by
  cases v with
  | mapping es =>
    simp only [findChild, hchild] at hfind
    obtain ⟨name, hmem, hcomputes⟩ := exists_computes_of_computedChild hfind
    exact .name hchild hmem hcomputes
  | _ =>
    simp only [findChild, hchild] at hfind
    cases hfind

theorem exists_findChild_of_walk {path : Path} {v w : Value}
    (h : walk ev key (segment :: path) v = .ok w) : ∃ child, findChild ev key segment v = .ok child := by
  cases path with
  | nil => exact ⟨w, h⟩
  | cons next path =>
    rw [walk_cons_cons] at h
    obtain ⟨child, hfind, -⟩ := exists_of_bind_eq_ok h
    exact ⟨child, hfind⟩

/-- A walk finds what is not stored at its path only on a detour. -/
theorem detour_of_walk (hev : ∀ s, isExpression s = false → ev s = .ok (.string s)) {path : Path}
    {v w : Value} (hwalk : walk ev key path v = .ok w) (hnode : v.node? path = none) :
    Detour ev path v := by
  induction path generalizing v with
  | nil => cases hnode
  | cons segment path ih =>
    cases hchild : v.child? segment with
    | none =>
      obtain ⟨child, hfind⟩ := exists_findChild_of_walk hwalk
      exact detour_of_findChild hchild hfind path
    | some child =>
      have hbelow : child.node? path = none := by rwa [node?_cons, hchild] at hnode
      cases path with
      | nil => cases hbelow
      | cons next path =>
        rw [walk_cons_cons, findChild_of_child? ev key hchild, ok_bind] at hwalk
        cases child with
        | string s =>
          cases hs : isExpression s with
          | true => exact .string hchild hs
          | false =>
            -- the string is entered through a string, which has no children
            rw [enter, hev _ (isExpression_trim hs), ok_bind] at hwalk
            obtain ⟨child, hfind⟩ := exists_findChild_of_walk hwalk
            cases hfind
        | _ => exact .child hchild (ih hwalk hbelow)

end Live

/-- **A push keeps what is stored.**  Let a live bag show a sequence at a key.  If it is stored there,
it has the pushed value as its new last item.  If not, the path has a detour, and what the key shows
afterwards is the pushed value alone. -/
theorem Bag.readRaw_push {tree : Value} {key : String} {xs : List Value}
    (h : (⟨.live, tree⟩ : Bag).readRaw key = .ok (.sequence xs)) (v : Value) :
    ((tree.node? (Path.ofKey key)).isSome →
      ((⟨.live, tree⟩ : Bag).push key v).readRaw key = .ok (.sequence (xs ++ [v]))) ∧
    (tree.node? (Path.ofKey key) = none →
      Live.Detour (Live.evalString tree) (Path.ofKey key) tree ∧
      ((⟨.live, tree⟩ : Bag).push key v).readRaw key = .ok (.sequence [v])) := by
  have hafter : ((⟨.live, tree⟩ : Bag).push key v).readRaw key =
      .ok (Value.append v ((tree.node? (Path.ofKey key)).getD .empty)) :=
    Live.walk_of_node? _ key (Value.node?_alter_self _ _ tree)
  constructor
  · intro hstored
    obtain ⟨w, hw⟩ := Option.isSome_iff_exists.1 hstored
    have hshown : (⟨.live, tree⟩ : Bag).readRaw key = .ok w := Live.walk_of_node? _ key hw
    obtain rfl : w = .sequence xs := Except.ok.inj (hshown.symm.trans h)
    rw [hafter, hw]
    rfl
  · intro hnone
    refine ⟨Live.detour_of_walk (Live.evalString_of_inert tree) h hnone, ?_⟩
    rw [hafter, hnone]
    rfl

/-- A sequence under a computed name, one that is stored, and one that a reference leads to. -/
def Value.shown : Value :=
  mapping [("$\x7bk\x7d", sequence [int 1]), ("k", string "xs"), ("ys", sequence [int 1]),
    ("a", string "$\x7bm\x7d"), ("m", mapping [("zs", sequence [int 1])])]

theorem Bag.readRaw_push_shown :
    (⟨.live, Value.shown⟩ : Bag).readRaw "xs" = .ok (.sequence [.int 1]) ∧
    ((⟨.live, Value.shown⟩ : Bag).push "xs" (.int 2)).readRaw "xs" = .ok (.sequence [.int 2]) ∧
    (⟨.live, Value.shown⟩ : Bag).readRaw "ys" = .ok (.sequence [.int 1]) ∧
    ((⟨.live, Value.shown⟩ : Bag).push "ys" (.int 2)).readRaw "ys" =
      .ok (.sequence [.int 1, .int 2]) := by
  have hxs : (⟨.live, Value.shown⟩ : Bag).readRaw "xs" = .ok (.sequence [.int 1]) := rfl
  have hys : (⟨.live, Value.shown⟩ : Bag).readRaw "ys" = .ok (.sequence [.int 1]) := rfl
  exact ⟨hxs, ((readRaw_push hxs (.int 2)).2 rfl).2, hys, (readRaw_push hys (.int 2)).1 rfl⟩

/-- The way to the sequence leads through a reference, and a push replaces the reference. -/
theorem Bag.readRaw_push_lost :
    ∃ (tree : Value) (key : String) (xs : List Value) (v : Value),
      (⟨.live, tree⟩ : Bag).readRaw key = .ok (.sequence xs) ∧
      ((⟨.live, tree⟩ : Bag).push key v).readRaw key ≠ .ok (.sequence (xs ++ [v])) := by
  have hbefore : (⟨.live, Value.shown⟩ : Bag).readRaw "a.zs" = .ok (.sequence [.int 1]) := rfl
  have hafter : ((⟨.live, Value.shown⟩ : Bag).push "a.zs" (.int 2)).readRaw "a.zs" =
      .ok (.sequence [.int 2]) := rfl
  refine ⟨_, _, _, .int 2, hbefore, fun h => ?_⟩
  cases hafter.symm.trans h

end PathBag
