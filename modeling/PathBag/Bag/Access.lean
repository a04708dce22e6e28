import PathBag.Fault
import PathBag.Marker.Eval
import PathBag.Value.Tree

/-!
# Reading and writing

The two ways to read and write a tree at a key.

* Plain: strings are data and nothing else.  Reading walks the tree along the path of the key, and
  writing always succeeds.
* Live: strings may hold markers, which are evaluated against the tree each time they are read.  A
  name of an entry may hold markers too: it answers for its value when no name answers literally.
  A live write can stop at a fault half way, and what it did up to there stays.

Evaluation nests: a marker reads keys, and reading a key evaluates what is found there.  Each
string with an opening brace takes one level of `levelLimit`.
-/

namespace PathBag

/-! ### Edits that may stop -/

/-- The outcome of an edit: what was edited, as far as the edit got, and the fault that stopped
it. -/
structure Edited (α : Type) where
  result : α
  stopped : Option Fault

namespace Edited

variable {α β : Type}

/-- An edit that got to its end. -/
def done (a : α) : Edited α := ⟨a, none⟩

/-- Goes on with another edit unless the first one stopped. -/
def andThen (e : Edited α) (next : α → Edited α) : Edited α :=
  match e.stopped with
  | some _ => e
  | none => next e.result

/-- The outcome of an edit of something larger. -/
def map (f : α → β) (e : Edited α) : Edited β := ⟨f e.result, e.stopped⟩

/-- What was edited, if the edit got to its end. -/
def toExcept (e : Edited α) : Except Fault α :=
  match e.stopped with
  | some fault => .error fault
  | none => .ok e.result

@[simp] theorem done_andThen (a : α) (next : α → Edited α) : (done a).andThen next = next a := rfl

@[simp] theorem andThen_done (e : Edited α) : e.andThen done = e := by
  obtain ⟨a, _ | fault⟩ := e <;> rfl

theorem andThen_assoc (e : Edited α) (f g : α → Edited α) :
    (e.andThen f).andThen g = e.andThen fun a => (f a).andThen g := by
  obtain ⟨a, _ | fault⟩ := e <;> rfl

end Edited

/-! ### Plain reading and writing -/

namespace Plain

/-- The node at a path below `v`, where `key` is the key that was asked for. -/
def walk (key : String) : Path → Value → Except Fault Value
  | [], v => .ok v
  | segment :: path, v =>
    match v.child? segment with
    | some child => walk key path child
    | none => .error (.noValue key segment)

/-- The value at a key. -/
def read (tree : Value) (key : String) : Except Fault Value := walk key (Path.ofKey key) tree

/-- The tree with `v` at a path, in place of what is there or, if `merging`, laid over it. -/
def write (path : Path) (merging : Bool) (v : Value) (tree : Value) : Value :=
  tree.alter path fun slot => if merging then slot.merge v else v

end Plain

/-! ### Live reading, given the evaluation of strings -/

namespace Live

/-- How deep evaluation may nest. -/
def levelLimit : Nat := 64

mutual

/-- A value with its strings evaluated by `ev`, without the blanks around them. -/
def evalWith (ev : String → Except Fault Value) : Value → Except Fault Value
  | .string s => ev (Text.trim s)
  | .sequence xs => (evalItems ev xs).map .sequence
  | .mapping es => (evalEntries ev es).map .mapping
  | v => .ok v

/-- Items with their strings evaluated, from left to right. -/
def evalItems (ev : String → Except Fault Value) : List Value → Except Fault (List Value)
  | [] => .ok []
  | x :: xs => do
    let v ← evalWith ev x
    return v :: (← evalItems ev xs)

/-- Entries with the strings of their contents evaluated; names stay. -/
def evalEntries (ev : String → Except Fault Value) :
    List (String × Value) → Except Fault (List (String × Value))
  | [] => .ok []
  | (name, x) :: es => do
    let v ← evalWith ev x
    return (name, v) :: (← evalEntries ev es)

end

/-- The content of the first entry whose name is an expression with the segment for its text. -/
def computedChild (ev : String → Except Fault Value) (key segment : String) :
    List (String × Value) → Except Fault Value
  | [] => .error (.noValue key segment)
  | (name, v) :: es =>
    if Marker.isExpression name then do
      if (← ev name).render = segment then return v
      else computedChild ev key segment es
    else computedChild ev key segment es

/-- The child that a segment names, literally or by an evaluated name. -/
def findChild (ev : String → Except Fault Value) (key segment : String) (v : Value) :
    Except Fault Value :=
  match v.child? segment, v with
  | some child, _ => .ok child
  | none, .mapping es => computedChild ev key segment es
  | none, _ => .error (.noValue key segment)

/-- The node at a path below `v`.  A string on the way is evaluated, so that the path can lead on
into its value; the one at the end is not. -/
def walk (ev : String → Except Fault Value) (key : String) : Path → Value → Except Fault Value
  | [], v => .ok v
  | [segment], v => findChild ev key segment v
  | segment :: path, v => do
    match ← findChild ev key segment v with
    | .string s => walk ev key path (← ev (Text.trim s))
    | child => walk ev key path child

/-- The evaluated value at a key. -/
def readWith (ev : String → Except Fault Value) (tree : Value) : Lookup := fun key => do
  evalWith ev (← walk ev key (Path.ofKey key) tree)

/-! ### Live reading -/

/-- The value of a text with `levels` levels left. -/
def evalText (tree : Value) : (levels : Nat) → String → Except Fault Value
  | 0, text =>
    if text.toList.contains '\x7B' then .error (.tooDeep levelLimit text) else .ok (.string text)
  | levels + 1, text =>
    if text.toList.contains '\x7B' then Marker.eval (readWith (evalText tree levels) tree) text
    else .ok (.string text)

/-- The value of a text. -/
def evalString (tree : Value) (text : String) : Except Fault Value := evalText tree levelLimit text

/-- A value with its strings evaluated. -/
def eval (tree : Value) (v : Value) : Except Fault Value := evalWith (evalString tree) v

/-- The value at a key as it is stored. -/
def readRaw (tree : Value) (key : String) : Except Fault Value :=
  walk (evalString tree) key (Path.ofKey key) tree

/-- The evaluated value at a key. -/
def read (tree : Value) (key : String) : Except Fault Value :=
  readWith (evalString tree) tree key

/-! ### Live writing -/

/-- The tree with the value of an expression in place of the expression at a path. -/
def force (path : Path) (tree : Value) : Edited Value :=
  match tree.node? path with
  | some (.string s) =>
    if Marker.isExpression s then
      match evalString tree (Text.trim s) with
      | .ok v => .done (tree.alter path fun _ => v)
      | .error fault => ⟨tree, some fault⟩
    else .done tree
  | _ => .done tree

/-- The tree with a node for each segment of a path below `above`, where an expression on the way is
forced before the path leads into it. -/
def clear (above : Path) : Path → Value → Edited Value
  | [], tree => .done tree
  | segment :: path, tree =>
    (force above tree).andThen fun tree =>
      clear (above ++ [segment]) path (tree.alter (above ++ [segment]) id)

/-- The tree with a value in one piece at a path, in place of what is there or, if `merging`, laid
over it. -/
def writeLeaf (path : Path) (merging : Bool) (v tree : Value) : Edited Value :=
  (clear [] path tree).andThen fun tree =>
    .done (tree.alter path fun slot => if merging then slot.merge v else v)

mutual

/-- The tree with a value at a path, in place of what is there or, if `merging`, laid over it.  A
mapping with entries is taken apart: each entry takes its place on its own. -/
def write (path : Path) (merging : Bool) : Value → Value → Edited Value
  | .mapping es, tree =>
    if es.isEmpty then writeLeaf path merging (.mapping es) tree else writeEntries path es tree
  | v, tree => writeLeaf path merging v tree

/-- The tree with entries at their places below a path. -/
def writeEntries (path : Path) : List (String × Value) → Value → Edited Value
  | [], tree => .done tree
  | (name, v) :: es, tree => (write (path ++ [name]) false v tree).andThen (writeEntries path es)

end

end Live

end PathBag
