import PathBag.Proofs.Bag.Operations
import PathBag.Proofs.Code.Paths
import PathBag.Proofs.Eval.Interpolation
import PathBag.Proofs.Tree.Notation

/-!
# One key in three forms

A text that is one marker has the value of what is written in it.  The key of a path can be written
in all three forms.  As a reference and as a placeholder it is looked up as it is; as code it is
read as a path first, and that path is looked up (`Live.evalText_dotted`).
-/

namespace PathBag

namespace Marker

/-! ### Texts that are one marker -/

/-- Code is no marker of another form and has none in it. -/
theorem not_occursIn_code {form : Form} (hform : form ≠ .code) {body : List Char}
    (hbody : Plain body) : form.occursIn (Form.code.write body) = false := by
  have hbrace : '{' ∉ '%' :: ' ' :: (body ++ [' ', '%', '}']) := by
    have hopen : '{' ∉ body := fun h => absurd (hbody '{' h) (by decide)
    simp [hopen]
  have htake : form.take ('{' :: '%' :: ' ' :: (body ++ [' ', '%', '}'])) = none := by
    cases form with
    | reference => rfl
    | placeholder => cases body <;> simp [Form.take, takeSpaced]
    | code => exact absurd rfl hform
  rw [Form.write, occursIn_cons, htake, occursIn_of_no_brace form hbrace]
  rfl

/-- The text that is one marker of a form with this body. -/
def Form.text (form : Form) (body : String) : String := String.ofList (form.write body.toList)

variable (read : Lookup) {body : String}

theorem eval_reference (h : Form.reference.Holds body.toList) :
    eval read (Form.reference.text body) = read.get body undefined := by
  have heval := eval_referenceText read h.ne_nil h.plain
  rwa [String.ofList_toList] at heval

theorem evalReferences_placeholder {body : List Char} (hne : body ≠ []) (hbody : Plain body)
    (rounds : Nat) :
    evalReferences read rounds (Form.placeholder.write body) = placeholderValue read body := by
  have hocc : Form.reference.occursIn (Form.placeholder.write body) = false := by
    have hrest := Template.occursIn_reference_placeholder hbody []
    rwa [List.append_nil] at hrest
  rw [evalReferences_of_not_occursIn read hocc, evalPlaceholders, pieces_write hne hbody]

theorem evalReferences_code {body : List Char} (hne : body ≠ []) (hbody : Plain body)
    (rounds : Nat) :
    evalReferences read rounds (Form.code.write body) =
      Code.parse (String.ofList body) >>= fun e => e.eval read := by
  rw [evalReferences_of_not_occursIn read (not_occursIn_code (by decide) hbody),
    evalPlaceholders_of_not_occursIn read (not_occursIn_code (by decide) hbody), evalCode,
    pieces_write hne hbody]

theorem eval_placeholder (h : Form.placeholder.Holds body.toList) (hbar : '|' ∉ body.toList) :
    eval read (Form.placeholder.text body) = read.get body undefined := by
  rw [eval, Form.text, String.toList_ofList, evalReferences_placeholder read h.ne_nil h.plain,
    placeholderValue_of_no_bar read hbar, String.ofList_toList]

theorem eval_code (hne : body.toList ≠ []) (hbody : Plain body.toList) :
    eval read (Form.code.text body) = Code.parse body >>= fun e => e.eval read := by
  rw [eval, Form.text, String.toList_ofList, evalReferences_code read hne hbody,
    String.ofList_toList]

end Marker

/-! ### Keys of words and digits -/

namespace Code

theorem mem_dotted {first : String} (hfirst : Text.isWord first.toList = true) {path : Path}
    (hpath : ∀ s ∈ path, IsSegment s) {c : Char} (hc : c ∈ (Path.dotted (first :: path)).toList) :
    Text.isWordPart c = true ∨ c = '.' := by
  rw [toList_dotted, dots, List.mem_append, List.mem_flatMap] at hc
  rcases hc with hc | ⟨s, hs, hc⟩
  · exact .inl (Text.isWordPart_of_mem hfirst c hc)
  · rcases List.mem_cons.1 hc with rfl | hc
    · exact .inr rfl
    · exact .inl (isWordPart_of_isSegment (hpath s hs) c hc)

/-- No segment holds a dot, so code looks the path up by its dotted key. -/
theorem toKey_eq_dotted {first : String} (hfirst : Text.isWord first.toList = true) {path : Path}
    (hpath : ∀ s ∈ path, IsSegment s) :
    Path.toKey (first :: path) = Path.dotted (first :: path) := by
  have hnone : ∀ s ∈ first :: path, '.' ∉ s.toList := by
    refine List.forall_mem_cons.2 ⟨fun h => ?_, fun s hs h => ?_⟩
    · exact Text.notMem_of_isWord hfirst (by decide) h
    · exact absurd (isWordPart_of_isSegment (hpath s hs) '.' h) (by decide)
  exact Path.toKey_of_no_dot hnone

/-- Nothing in a key of words and digits ends a marker or belongs to one. -/
theorem holds_dotted {first : String} (hfirst : Text.isWord first.toList = true) {path : Path}
    (hpath : ∀ s ∈ path, IsSegment s) (form : Marker.Form) :
    form.Holds (Path.dotted (first :: path)).toList where
  ne_nil := by
    obtain ⟨c, cs, hlist, -, -⟩ := Text.exists_of_isWord hfirst
    rw [toList_dotted, hlist]
    exact List.cons_ne_nil _ _
  plain c hc := by
    rcases mem_dotted hfirst hpath hc with hpart | rfl
    · refine Bool.eq_false_iff.2 fun hbrace => ?_
      obtain rfl | rfl : c = '{' ∨ c = '}' := by simpa [Marker.isBrace] using hbrace
      · exact absurd hpart (by decide)
      · exact absurd hpart (by decide)
    · decide
  no_blank _ c hc := by
    rcases mem_dotted hfirst hpath hc with hpart | rfl
    · exact Text.isBlank_of_isWordPart hpart
    · decide

end Code

namespace Live

open Marker

section Dotted

variable (tree : Value) (levels : Nat) {first : String} {path : Path}
  (hfirst : Text.isWord first.toList = true) (hpath : ∀ s ∈ path, Code.IsSegment s)

include hfirst hpath

/-- A reference and a placeholder look the key up as it is. -/
theorem evalText_of_ne_code {form : Form} (hform : form ≠ .code) :
    evalText tree (levels + 1) (form.text (Path.dotted (first :: path))) =
      (reader tree levels).get (Path.dotted (first :: path)) undefined := by
  have hholds : form.Holds (Path.dotted (first :: path)).toList :=
    Code.holds_dotted hfirst hpath form
  have hbar : '|' ∉ (Path.dotted (first :: path)).toList := fun h => by
    rcases Code.mem_dotted hfirst hpath h with hpart | hdot
    · exact absurd hpart (by decide)
    · exact absurd hdot (by decide)
  rw [evalText_succ]
  cases form with
  | reference => exact eval_reference _ hholds
  | placeholder => exact eval_placeholder _ hholds hbar
  | code => exact absurd rfl hform

theorem evalText_code :
    evalText tree (levels + 1) (Form.code.text (Path.dotted (first :: path))) =
      Code.parse (Path.dotted (first :: path)) >>= fun e => e.eval (reader tree levels) := by
  have hholds : Form.code.Holds (Path.dotted (first :: path)).toList :=
    Code.holds_dotted hfirst hpath .code
  rw [evalText_succ, eval_code _ hholds.ne_nil hholds.plain]

variable (hname : Code.wordToken first = .word first)

include hname

/-- Code looks up the key with its segments as they are spelled. -/
theorem evalText_code_of_spelled {names : Path} (hnames : path.mapM Code.respell = some names) :
    evalText tree (levels + 1) (Form.code.text (Path.dotted (first :: path))) =
      (reader tree levels).get (Path.dotted (first :: names)) .null := by
  have hparse := Code.parse_dotted hfirst hname hpath
  have hsegments : ∀ s ∈ names, Code.IsSegment s := Code.isSegment_of_mapM_respell hpath hnames
  rw [evalText_code tree levels hfirst hpath, hparse.ok names hnames, ok_bind, Code.Expr.eval,
    Code.toKey_eq_dotted hfirst hsegments]

theorem evalText_code_of_unspelled (hnone : path.mapM Code.respell = none) :
    ∃ fault : Fault, evalText tree (levels + 1) (Form.code.text (Path.dotted (first :: path))) =
      .error fault ∧ fault.OfSegment := by
  obtain ⟨fault, hfault, hsegment⟩ := (Code.parse_dotted hfirst hname hpath).error hnone
  refine ⟨fault, ?_, hsegment⟩
  rw [evalText_code tree levels hfirst hpath, hfault]
  rfl

end Dotted

/-- **One key in three forms.**  Let a key be a name, and behind it words and digits with dots
between them, and let it have a value.  It has this value as a reference and as a placeholder that
is the whole text.  As code it has the value of the key with its segments as they are spelled in
code.  This is the same key if no segment is `and`, `or` or `not` and all digits are the canonical
ones of a 64-bit integer.  If some segment has no spelling, code stops at the fault of a segment. -/
theorem evalText_dotted (tree : Value) (levels : Nat) {first : String}
    (hfirst : Text.isWord first.toList = true) (hname : Code.wordToken first = .word first)
    {path : Path} (hpath : ∀ s ∈ path, Code.IsSegment s) {v : Value}
    (hread : reader tree levels (Path.dotted (first :: path)) = .ok v) :
    evalText tree (levels + 1) (Form.reference.text (Path.dotted (first :: path))) = .ok v ∧
    evalText tree (levels + 1) (Form.placeholder.text (Path.dotted (first :: path))) = .ok v ∧
    ((∀ s ∈ path, s ∉ ["and", "or", "not"] ∧
        ∀ n, Decimal.readDigits s.toList = some n →
          (n : Int) ≤ Int64.maxValue.toInt ∧ s = Decimal.writeNat n) →
      evalText tree (levels + 1) (Form.code.text (Path.dotted (first :: path))) = .ok v) ∧
    (∀ names, path.mapM Code.respell = some names →
      evalText tree (levels + 1) (Form.code.text (Path.dotted (first :: path))) =
        (reader tree levels).get (Path.dotted (first :: names)) .null) ∧
    (path.mapM Code.respell = none → ∃ fault : Fault,
      evalText tree (levels + 1) (Form.code.text (Path.dotted (first :: path))) = .error fault ∧
        fault.OfSegment) := by
  have hget (default : Value) :
      (reader tree levels).get (Path.dotted (first :: path)) default = .ok v :=
    Lookup.getAs_of_ok hread default .any
  have hspelled {names : Path} (hnames : path.mapM Code.respell = some names) :=
    evalText_code_of_spelled tree levels hfirst hpath hname hnames
  refine ⟨?_, ?_, fun hself => ?_, fun _ hnames => hspelled hnames, fun hnone => ?_⟩
  · exact (evalText_of_ne_code tree levels hfirst hpath (by decide)).trans (hget _)
  · exact (evalText_of_ne_code tree levels hfirst hpath (by decide)).trans (hget _)
  · have hnames : path.mapM Code.respell = some path :=
      Code.mapM_respell_of_self fun s hs => (Code.respell_eq_self_iff (hpath s hs)).2 (hself s hs)
    exact (hspelled hnames).trans (hget _)
  · exact evalText_code_of_unspelled tree levels hfirst hpath hname hnone

/-- Below `a` names that code spells as they are, in another way, and not at all. -/
def spelled : Value :=
  .mapping [("a", .mapping [("true", .sequence [.int 5]), ("01", .int 6), ("and", .int 8)])]

theorem evalText_dotted_spelled :
    (Text.isWord "a".toList = true ∧ Code.wordToken "a" = .word "a" ∧
      ∀ s ∈ ["true", "0", "01", "and"], Code.IsSegment s) ∧
    (reader spelled 63 "a.true.0" = .ok (.int 5) ∧
      evalString spelled "$\x7ba.true.0\x7d" = .ok (.int 5) ∧
      evalString spelled "\x7b\x7b a.true.0 \x7d\x7d" = .ok (.int 5) ∧
      evalString spelled "\x7b% a.true.0 %\x7d" = .ok (.int 5)) ∧
    (reader spelled 63 "a.01" = .ok (.int 6) ∧
      evalString spelled "\x7b% a.01 %\x7d" = (reader spelled 63).get "a.1" .null) ∧
    (reader spelled 63 "a.and" = .ok (.int 8) ∧
      ∃ fault : Fault, evalString spelled "\x7b% a.and %\x7d" = .error fault ∧ fault.OfSegment) := by
  have hfirst : Text.isWord "a".toList = true := by decide
  have hname : Code.wordToken "a" = .word "a" := rfl
  have htrue : reader spelled 63 (Path.dotted ("a" :: ["true", "0"])) = .ok (.int 5) := rfl
  have hzeros : reader spelled 63 (Path.dotted ("a" :: ["01"])) = .ok (.int 6) := rfl
  have hand : reader spelled 63 (Path.dotted ("a" :: ["and"])) = .ok (.int 8) := rfl
  have hsegments : ∀ s ∈ ["true", "0"], Code.IsSegment s := by decide
  have hself : ∀ s ∈ ["true", "0"], Code.respell s = some s := by decide
  obtain ⟨href, hhole, hcode, -⟩ := evalText_dotted spelled 63 hfirst hname hsegments htrue
  refine ⟨⟨hfirst, hname, by decide⟩, ⟨htrue, href, hhole, hcode fun s hs => ?_⟩,
    ⟨hzeros, ?_⟩, hand, ?_⟩
  · exact (Code.respell_eq_self_iff (hsegments s hs)).1 (hself s hs)
  · exact (evalText_dotted spelled 63 hfirst hname (by decide) hzeros).2.2.2.1 ["1"] rfl
  · exact (evalText_dotted spelled 63 hfirst hname (by decide) hand).2.2.2.2 rfl

/-- Zeros in front of a number get lost in code, and with them the value of the key. -/
theorem evalText_dotted_zeros :
    ∃ (tree : Value) (first : String) (path : Path) (v : Value),
      Text.isWord first.toList = true ∧ Code.wordToken first = .word first ∧
      (∀ s ∈ path, Code.IsSegment s) ∧ reader tree 63 (Path.dotted (first :: path)) = .ok v ∧
      evalString tree (Form.reference.text (Path.dotted (first :: path))) = .ok v ∧
      evalString tree (Form.placeholder.text (Path.dotted (first :: path))) = .ok v ∧
      evalString tree (Form.code.text (Path.dotted (first :: path))) ≠ .ok v := by
  have hfirst : Text.isWord "a".toList = true := by decide
  have hpath : ∀ s ∈ ["01"], Code.IsSegment s := by decide
  have hread : reader spelled 63 (Path.dotted ("a" :: ["01"])) = .ok (.int 6) := rfl
  have hget : (reader spelled 63).get (Path.dotted ("a" :: ["01"])) undefined = .ok (.int 6) :=
    Lookup.getAs_of_ok hread undefined .any
  have hmiss : (reader spelled 63).get (Path.dotted ("a" :: ["1"])) .null = .ok .null := rfl
  have hcode := (evalText_code_of_spelled spelled 63 hfirst hpath rfl rfl).trans hmiss
  refine ⟨spelled, "a", ["01"], .int 6, hfirst, rfl, hpath, hread, ?_, ?_, fun h => ?_⟩
  · exact (evalText_of_ne_code spelled 63 hfirst hpath (by decide)).trans hget
  · exact (evalText_of_ne_code spelled 63 hfirst hpath (by decide)).trans hget
  · cases hcode.symm.trans h

end Live

end PathBag
