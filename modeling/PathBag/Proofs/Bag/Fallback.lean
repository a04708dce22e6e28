import PathBag.Proofs.Bag.Inert
import PathBag.Proofs.Eval.Chains
import PathBag.Proofs.Eval.Forms
import PathBag.Proofs.Eval.Misses

/-!
# Defaults of typed reads

A typed read ends in one of four ways, and what it and its two relatives make of each of them is
listed once (`Bag.TypedAnswers`).  The read that asks for data if there is any keeps a miss apart
from other faults.  The read with a default does not: it gives the default for every fault.  So where
no faults but misses can arise it does what it should, as it does without markers, and where
evaluation fails it hides the failure (`Bag.typedAnswers`).
-/

namespace PathBag

/-- What a bag answers about typed data at a key, by what reading the key ends in. -/
inductive Bag.TypedAnswers (b : Bag) (shape : Shape) (key : String) : Prop
  /-- A value of the shape answers with its data. -/
  | data (v : Value) (x : shape.Carrier) (read : b.read key = .ok v)
      (extract : shape.extract v = .ok x)
      (typed : b.typed shape key = .ok x)
      (optional : b.optional shape key = .ok (some x))
      (typedOr : ∀ default, b.typedOr shape key default = x)
  /-- A value of another shape is a fault, for which the default stands in. -/
  | misfit (v : Value) (fault : Fault) (read : b.read key = .ok v)
      (extract : shape.extract v = .error fault)
      (typed : b.typed shape key = .error fault)
      (optional : b.optional shape key = .error fault)
      (typedOr : ∀ default, b.typedOr shape key default = default)
  /-- A miss is no data, and the default stands in for it. -/
  | miss (fault : Fault) (isMiss : fault.isMiss = true) (read : b.read key = .error fault)
      (typed : b.typed shape key = .error fault)
      (optional : b.optional shape key = .ok none)
      (typedOr : ∀ default, b.typedOr shape key default = default)
  /-- Every other fault comes through, unless there is a default, which stands in for it too. -/
  | fault (fault : Fault) (loud : fault.Loud) (read : b.read key = .error fault)
      (typed : b.typed shape key = .error fault)
      (optional : b.optional shape key = .error fault)
      (typedOr : ∀ default, b.typedOr shape key default = default)

namespace Bag

section Typed

variable {b : Bag} {shape : Shape} {key : String}

theorem typed_of_ok {v : Value} (h : b.read key = .ok v) :
    b.typed shape key = shape.extract v := by
  rw [typed, h]
  rfl

theorem typed_of_error {fault : Fault} (h : b.read key = .error fault) :
    b.typed shape key = .error fault := by
  rw [typed, h]
  rfl

theorem optional_of_ok {v : Value} (h : b.read key = .ok v) :
    b.optional shape key = (shape.extract v).map some := by
  rw [optional, h]

theorem optional_of_error {fault : Fault} (h : b.read key = .error fault) :
    b.optional shape key = if fault.isMiss then .ok none else .error fault := by
  rw [optional, h]

theorem typedOr_of_ok {x : shape.Carrier} (h : b.typed shape key = .ok x)
    (default : shape.Carrier) : b.typedOr shape key default = x := by
  rw [typedOr, h]

theorem typedOr_of_error {fault : Fault} (h : b.typed shape key = .error fault)
    (default : shape.Carrier) : b.typedOr shape key default = default := by
  rw [typedOr, h]

theorem typedAnswers_of_ok {v : Value} (hread : b.read key = .ok v) :
    b.TypedAnswers shape key := by
  have htyped : b.typed shape key = shape.extract v := typed_of_ok hread
  have hoptional : b.optional shape key = (shape.extract v).map some := optional_of_ok hread
  cases hextract : shape.extract v with
  | ok x =>
    rw [hextract] at htyped hoptional
    exact .data v x hread hextract htyped hoptional (typedOr_of_ok htyped)
  | error fault =>
    rw [hextract] at htyped hoptional
    exact .misfit v fault hread hextract htyped hoptional (typedOr_of_error htyped)

theorem typedAnswers_of_error {fault : Fault} (hread : b.read key = .error fault) :
    b.TypedAnswers shape key := by
  have htyped : b.typed shape key = .error fault := typed_of_error hread
  have hoptional : b.optional shape key = if fault.isMiss then .ok none else .error fault :=
    optional_of_error hread
  cases hmiss : fault.isMiss with
  | true =>
    rw [hmiss] at hoptional
    exact .miss fault hmiss hread htyped hoptional (typedOr_of_error htyped)
  | false =>
    rw [hmiss] at hoptional
    exact .fault fault hmiss hread htyped hoptional (typedOr_of_error htyped)

end Typed

/-- Without markers a read has no faults but misses. -/
theorem isMiss_of_inert {b : Bag} (hb : b.mode = .plain ∨ b.tree.Inert) {key : String}
    {fault : Fault} (h : b.read key = .error fault) : fault.isMiss = true := by
  obtain ⟨mode, tree⟩ := b
  have hplain : ∀ fault : Fault, Plain.read tree key = .error fault → fault.isMiss = true := by
    intro fault h
    rcases Plain.walk_cases key (Path.ofKey key) tree with ⟨w, -, hwalk⟩ | ⟨-, segment, hwalk⟩
    · cases hwalk.symm.trans h
    · cases hwalk.symm.trans h
      rfl
  cases mode with
  | plain => exact hplain fault h
  | live =>
    obtain hmode | htree := hb
    · cases hmode
    · have hread : (Plain.read tree key).map Value.trimmed = .error fault :=
        (Live.read_of_inert htree key).symm.trans h
      cases hstored : Plain.read tree key with
      | ok v =>
        rw [hstored] at hread
        cases hread
      | error fault' =>
        rw [hstored] at hread
        cases hread
        exact hplain _ hstored

end Bag

/-- Reading the name of a text evaluates the text, and what stops this is never a miss. -/
theorem Live.read_of_text {tree : Value} {key text : String} (hkey : IsName key)
    (hchild : tree.child? key = some (.string text)) {fault : Fault}
    (h : evalString tree (Text.trim text) = .error fault) :
    (⟨.live, tree⟩ : Bag).read key = .error fault ∧ fault.Loud := by
  rw [evalString] at h
  have hread : reader tree levelLimit key = .error fault := by
    rw [reader_eq_bind, rawReader_of_child levelLimit hkey hchild, ok_bind, evalWith, h]
  exact ⟨hread, (evalText_neverMisses tree levelLimit (Text.trim text)).of_eq_error h⟩

/-- **A typed read with a default never fails, whatever fails in it.**  A bag answers in one of four
ways.  In the last one, a fault that is no miss comes through the other typed reads, and the default
stands in for it as it does for a miss.  Without markers there is no such fault.  With them there
is one for every text whose evaluation fails. -/
theorem Bag.typedAnswers (b : Bag) (shape : Shape) (key : String) :
    b.TypedAnswers shape key ∧
    (b.mode = .plain ∨ b.tree.Inert →
      ∀ fault : Fault, b.read key = .error fault → fault.isMiss = true) ∧
    (b.mode = .live → IsName key → ∀ text, b.tree.child? key = some (.string text) →
      ∀ fault : Fault, Live.evalString b.tree (Text.trim text) = .error fault →
        fault.Loud ∧ b.typed shape key = .error fault ∧ b.optional shape key = .error fault ∧
          ∀ default, b.typedOr shape key default = default) := by
  refine ⟨?_, fun hb fault hread => isMiss_of_inert hb hread, ?_⟩
  · cases hread : b.read key with
    | ok v => exact typedAnswers_of_ok hread
    | error fault => exact typedAnswers_of_error hread
  · intro hmode hkey text hchild fault hstop
    obtain ⟨mode, tree⟩ := b
    obtain rfl : mode = .live := hmode
    obtain ⟨hread, hloud⟩ := Live.read_of_text hkey hchild hstop
    have htyped : (⟨.live, tree⟩ : Bag).typed shape key = .error fault := typed_of_error hread
    have hoptional : (⟨.live, tree⟩ : Bag).optional shape key =
        if fault.isMiss then .ok none else .error fault := optional_of_error hread
    rw [hloud] at hoptional
    exact ⟨hloud, htyped, hoptional, typedOr_of_error htyped⟩

/-! ### A text whose evaluation fails -/

/-- A name with code in which a quote stays open, and one with an integer. -/
def Bag.broken : Value :=
  .mapping [("a", .string "\x7b% 'x %\x7d"), ("b", .int 5)]

theorem Live.evalString_broken (tree : Value) :
    evalString tree (Text.trim "\x7b% 'x %\x7d") = .error (.unclosedString '\'' ⟨1, 0⟩) := by
  have htext : Marker.Form.code.text "'x" = Text.trim "\x7b% 'x %\x7d" := by decide
  have hparse : Code.parse "'x" = .error (.unclosedString '\'' ⟨1, 0⟩) := rfl
  rw [evalString, levelLimit, evalText_succ, ← htext, Marker.eval_code _ (by decide) (by decide),
    hparse]
  rfl

/-- The open quote is a fault for two of the typed reads, and the third gives its default. -/
theorem Bag.typedAnswers_broken :
    (⟨.live, broken⟩ : Bag).typed .integer "a" = .error (.unclosedString '\'' ⟨1, 0⟩) ∧
      (⟨.live, broken⟩ : Bag).optional .integer "a" = .error (.unclosedString '\'' ⟨1, 0⟩) ∧
      (∀ default, (⟨.live, broken⟩ : Bag).typedOr .integer "a" default = default) ∧
      (⟨.plain, broken⟩ : Bag).read "c" = .error (.noValue "c" "c") ∧
      (Fault.noValue "c" "c").isMiss = true := by
  have hname : IsName "a" := by decide
  have hchild : broken.child? "a" = some (.string "\x7b% 'x %\x7d") := rfl
  obtain ⟨-, -, hfails⟩ := typedAnswers ⟨.live, broken⟩ .integer "a"
  obtain ⟨-, hmiss, -⟩ := typedAnswers ⟨.plain, broken⟩ .integer "c"
  obtain ⟨-, htyped, hoptional, htypedOr⟩ :=
    hfails rfl hname _ hchild _ (Live.evalString_broken broken)
  have hread : (⟨.plain, broken⟩ : Bag).read "c" = .error (.noValue "c" "c") := rfl
  exact ⟨htyped, hoptional, htypedOr, hread, hmiss (.inl rfl) _ hread⟩

/-- A fault of evaluation is no miss, and the default stands in for it. -/
theorem Bag.typedOr_broken :
    ∃ (tree : Value) (key : String) (fault : Fault),
      (⟨.live, tree⟩ : Bag).read key = .error fault ∧ fault.isMiss = false ∧
      ∀ (shape : Shape) (default : shape.Carrier),
        (⟨.live, tree⟩ : Bag).typedOr shape key default = default := by
  have hchild : broken.child? "a" = some (.string "\x7b% 'x %\x7d") := rfl
  obtain ⟨hread, hloud⟩ := Live.read_of_text (by decide) hchild (Live.evalString_broken broken)
  exact ⟨broken, "a", _, hread, hloud, fun shape => typedOr_of_error (typed_of_error hread)⟩

end PathBag
