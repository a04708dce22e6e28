import PathBag.Proofs.Eval.Respect

/-!
# Live walks

A walk finds the child that each segment names and enters it before it goes on: a string is entered
through its value, every other node as it is.  A walk to a stored node finds it (`walk_of_node?`),
and a walk of one more segment enters the node it would have ended at (`walk_concat`).
-/

namespace PathBag

namespace Value

/-- Nothing stands below a string. -/
theorem eq_nil_of_node?_string {s : String} {r : Path} {w : Value}
    (h : (string s).node? r = some w) : r = [] := by
  cases r with
  | nil => rfl
  | cons => cases h

end Value

namespace Live

open Value

/-- The value through which a walk goes on from a node. -/
def enter (ev : String → Except Fault Value) : Value → Except Fault Value
  | .string s => ev (Text.trim s)
  | v => .ok v

/-- The value through which a walk goes on from what is no string is that value. -/
theorem enter_of_ne_string {ev : String → Except Fault Value} {v : Value}
    (h : v.kind ≠ .string) : enter ev v = .ok v := by
  cases v with
  | string s => exact absurd rfl h
  | _ => rfl

variable (ev : String → Except Fault Value) (key : String)

theorem findChild_of_child? {segment : String} {v child : Value}
    (h : v.child? segment = some child) : findChild ev key segment v = .ok child := by
  simp only [findChild, h]

/-- A walk of two steps or more enters each child before the last. -/
theorem walk_cons_cons (segment next : String) (path : Path) (v : Value) :
    walk ev key (segment :: next :: path) v =
      findChild ev key segment v >>= fun child => enter ev child >>= walk ev key (next :: path) := by
  show (findChild ev key segment v >>= fun child => _) = _
  congr 1
  funext child
  cases child <;> rfl

/-- One more segment leads on from the value of the node at the path. -/
theorem walk_concat {path : Path} (hne : path ≠ []) (segment : String) (v : Value) :
    walk ev key (path ++ [segment]) v =
      walk ev key path v >>= fun node => enter ev node >>= findChild ev key segment := by
  induction path generalizing v with
  | nil => exact absurd rfl hne
  | cons first path ih =>
    cases path with
    | nil => exact walk_cons_cons ev key first segment [] v
    | cons next path =>
      rw [List.cons_append, List.cons_append, walk_cons_cons, walk_cons_cons, bind_assoc]
      congr 1
      funext child
      rw [bind_assoc]
      congr 1
      funext entered
      exact ih (List.cons_ne_nil _ _) entered

/-- A walk to a stored node finds it, whatever names and strings would answer for its path as
expressions. -/
theorem walk_of_node? {path : Path} {tree v : Value} (h : tree.node? path = some v) :
    walk ev key path tree = .ok v := by
  induction path generalizing tree with
  | nil =>
    cases h
    rfl
  | cons segment path ih =>
    obtain ⟨child, hchild, hv⟩ := Option.bind_eq_some_iff.1 h
    have hfind : findChild ev key segment tree = .ok child := findChild_of_child? ev key hchild
    cases path with
    | nil =>
      cases hv
      exact hfind
    | cons next path =>
      have henter : enter ev child = .ok child := enter_of_ne_string fun hkind => by
        cases child with
        | string s => exact absurd (eq_nil_of_node?_string hv) (List.cons_ne_nil _ _)
        | _ => cases hkind
      rw [walk_cons_cons, hfind, ok_bind, henter, ok_bind]
      exact ih hv

end Live

/-! ### The key of a walk -/

/-- The value of `x`, if it has one, is the value of `y`. -/
def Repeats (α : Type) (x y : Except Fault α) : Prop := ∀ a, x = .ok a → y = .ok a

theorem repeats_congruence : Congruence Repeats where
  ok _ _ h := h
  loud _ _ h := by cases h
  bind {α β x y f g} hxy hfg b h := by
    cases x with
    | error fault => cases h
    | ok a =>
      rw [hxy a rfl]
      exact hfg a b h

namespace Live

/-- The key is only there to name a miss, so a walk that finds a node finds it for any key. -/
theorem walk_of_ok {ev : String → Except Fault Value} {key : String} {path : Path} {v w : Value}
    (h : walk ev key path v = .ok w) (key' : String) : walk ev key' path v = .ok w :=
  repeats_congruence.walk (fun _ _ hs => hs) (fun _ _ _ hmiss => by cases hmiss) v w h

end Live

end PathBag
