import PathBag.Proofs.Code.Completeness
import PathBag.Proofs.Decimal.Integers
import PathBag.Proofs.Text.Classes
import PathBag.Proofs.Tree.Names
import PathBag.Proofs.Tree.Notation

/-!
# Dotted paths as code

A path whose segments are words and digits is code as well as a key.  As code it is cut into tokens,
and a segment is what its token stands for (`respell`): digits stand for a number and are spelled
without the zeros in front, digits of no 64-bit integer stand for nothing, and neither do the words
of operators.  So code reads a path as the path of the segments so spelled, or it stops at the first
segment without a spelling (`parse_dotted`).
-/

namespace PathBag

/-- The fault of a segment without a spelling in code. -/
def Fault.OfSegment : Fault → Prop
  | .numberTooGreat _ _ | .noSegment _ _ => True
  | _ => False

/-! ### Digits -/

theorem Decimal.readDigits_eq_some_iff {cs : List Char} {n : Nat} :
    readDigits cs = some n ↔
      (cs ≠ [] ∧ ∀ c ∈ cs, isDigit c = true) ∧ Nat.ofDigitChars 10 cs 0 = n := by
  simp [readDigits]

theorem Decimal.readDigits_of_isWord {cs : List Char} (h : Text.isWord cs = true) :
    readDigits cs = none := by
  obtain ⟨c, cs, rfl, hc, -⟩ := Text.exists_of_isWord h
  simp [readDigits, Text.isDigit_of_isWordStart hc]

namespace Code

/-! ### Segments -/

/-- A word or digits. -/
def IsSegment (segment : String) : Prop :=
  Text.isWord segment.toList = true ∨ (Decimal.readDigits segment.toList).isSome = true

instance (segment : String) : Decidable (IsSegment segment) := inferInstanceAs (Decidable (_ ∨ _))

/-- The token of a segment behind a dot. -/
def segmentToken (segment : String) : Except Snag Token :=
  match Decimal.readDigits segment.toList with
  | some n =>
    match Decimal.toInt64? n with
    | some i => .ok (.int i)
    | none => .error (.tooGreat segment.toList)
  | none => .ok (wordToken segment)

/-- The segment that a segment in code stands for, if there is one. -/
def respell (segment : String) : Option String :=
  match segmentToken segment with
  | .ok token => Parse.segment? token
  | .error _ => none

section Spelling

variable {segment : String}

/-- A word stands for itself unless it is an operator. -/
theorem respell_of_isWord (h : Text.isWord segment.toList = true) :
    respell segment = if segment ∈ ["and", "or", "not"] then none else some segment := by
  have htoken : segmentToken segment = .ok (wordToken segment) := by
    rw [segmentToken, Decimal.readDigits_of_isWord h]
  rw [respell, htoken]
  unfold wordToken
  dsimp only
  split <;> simp_all [Parse.segment?]

/-- Digits stand for the canonical text of their number, if it is a 64-bit integer. -/
theorem respell_of_digits {n : Nat} (h : Decimal.readDigits segment.toList = some n) :
    respell segment =
      if (n : Int) ≤ Int64.maxValue.toInt then some (Decimal.writeNat n) else none := by
  rw [respell, segmentToken, h]
  dsimp only
  rw [Decimal.toInt64?_natCast]
  by_cases hn : (n : Int) ≤ Int64.maxValue.toInt
  · simp only [hn, if_true, Parse.segment?, Decimal.writeInt64_natCast hn]
  · simp only [hn, if_false]

theorem isWordPart_of_isSegment (h : IsSegment segment) :
    ∀ c ∈ segment.toList, Text.isWordPart c = true := by
  rcases h with hword | hdigits
  · exact Text.isWordPart_of_mem hword
  · obtain ⟨n, hn⟩ := Option.isSome_iff_exists.1 hdigits
    obtain ⟨⟨-, hall⟩, -⟩ := Decimal.readDigits_eq_some_iff.1 hn
    exact fun c hc => Text.isWordPart_of_isDigit (hall c hc)

/-- The segments that stand for themselves. -/
theorem respell_eq_self_iff (h : IsSegment segment) :
    respell segment = some segment ↔ segment ∉ ["and", "or", "not"] ∧
      ∀ n, Decimal.readDigits segment.toList = some n →
        (n : Int) ≤ Int64.maxValue.toInt ∧ segment = Decimal.writeNat n := by
  rcases h with hword | hdigits
  · simp [respell_of_isWord hword, Decimal.readDigits_of_isWord hword]
  · obtain ⟨n, hn⟩ := Option.isSome_iff_exists.1 hdigits
    have hno : segment ∉ ["and", "or", "not"] := by
      intro hmem
      have hnone : ∀ s ∈ ["and", "or", "not"], Decimal.readDigits s.toList = none := by decide
      rw [hnone segment hmem] at hn
      cases hn
    simp [respell_of_digits hn, hn, hno, eq_comm]

theorem isSegment_of_respell (h : IsSegment segment) {name : String}
    (hname : respell segment = some name) : IsSegment name := by
  rcases h with hword | hdigits
  · rw [respell_of_isWord hword] at hname
    split at hname
    · cases hname
    · cases hname
      exact .inl hword
  · obtain ⟨n, hn⟩ := Option.isSome_iff_exists.1 hdigits
    rw [respell_of_digits hn] at hname
    split at hname
    · cases hname
      rw [IsSegment, Decimal.writeNat, String.toList_ofList, Decimal.readDigits_toDigits]
      exact .inr rfl
    · cases hname

theorem isSegment_of_mapM_respell {path names : Path} (hpath : ∀ s ∈ path, IsSegment s)
    (h : path.mapM respell = some names) : ∀ s ∈ names, IsSegment s := by
  induction path generalizing names with
  | nil =>
    cases h
    exact fun _ hs => absurd hs List.not_mem_nil
  | cons segment path ih =>
    obtain ⟨hsegment, hpath⟩ := List.forall_mem_cons.1 hpath
    rw [List.mapM_cons] at h
    obtain ⟨name, hname, h⟩ := Option.bind_eq_some_iff.1 h
    obtain ⟨names, hnames, h⟩ := Option.bind_eq_some_iff.1 h
    cases h
    exact List.forall_mem_cons.2 ⟨isSegment_of_respell hsegment hname, ih hpath hnames⟩

theorem mapM_respell_of_self {path : Path} (h : ∀ s ∈ path, respell s = some s) :
    path.mapM respell = some path := by
  induction path with
  | nil => rfl
  | cons segment path ih =>
    obtain ⟨hsegment, hpath⟩ := List.forall_mem_cons.1 h
    rw [List.mapM_cons, hsegment, ih hpath]
    rfl

end Spelling

/-- What becomes of segments in code: `f` of all of them as they are spelled, or the fault of one
without a spelling. -/
structure Respells {α : Type} (path : Path) (f : Path → α) (x : Except Fault α) : Prop where
  ok : ∀ names, path.mapM respell = some names → x = .ok (f names)
  error : path.mapM respell = none → ∃ fault : Fault, x = .error fault ∧ fault.OfSegment

namespace Respells

variable {α β : Type} {segment : String} {path : Path} {f : Path → α} {x : Except Fault α}

theorem nil (f : Path → α) : Respells [] f (.ok (f [])) where
  ok names h := by
    cases h
    rfl
  error h := by cases h

theorem cons_none (h : respell segment = none) {fault : Fault} (hfault : fault.OfSegment)
    (f : Path → α) : Respells (segment :: path) f (.error fault) where
  ok names hnames := by
    rw [List.mapM_cons, h] at hnames
    cases hnames
  error _ := ⟨fault, rfl, hfault⟩

theorem cons_some {name : String} (h : respell segment = some name)
    (hx : Respells path (fun names => f (name :: names)) x) : Respells (segment :: path) f x := by
  have hcons : (segment :: path).mapM respell = (path.mapM respell).map (name :: ·) := by
    rw [List.mapM_cons, h]
    cases path.mapM respell <;> rfl
  refine ⟨fun names hnames => ?_, fun hnone => ?_⟩
  · rw [hcons] at hnames
    obtain ⟨rest, hrest, rfl⟩ := Option.map_eq_some_iff.1 hnames
    exact hx.ok rest hrest
  · rw [hcons] at hnone
    exact hx.error (Option.map_eq_none_iff.1 hnone)

theorem bind (hx : Respells path f x) {g : Path → β} {y : α → Except Fault β}
    (hy : ∀ names, y (f names) = .ok (g names)) : Respells path g (x >>= y) where
  ok names hnames := by
    rw [hx.ok names hnames]
    exact hy names
  error hnone := by
    obtain ⟨fault, rfl, hfault⟩ := hx.error hnone
    exact ⟨fault, rfl, hfault⟩

theorem exists_of_ok (hx : Respells path f x) {a : α} (h : x = .ok a) : ∃ names, a = f names := by
  cases hnames : path.mapM respell with
  | none =>
    obtain ⟨fault, herror, -⟩ := hx.error hnames
    cases h.symm.trans herror
  | some names => exact ⟨names, Except.ok.inj (h.symm.trans (hx.ok names hnames))⟩

end Respells

/-! ### Cutting -/

/-- Text that does not go on with a word. -/
def Ends (rest : List Char) : Prop := ∀ c, rest.head? = some c → Text.isWordPart c = false

section Scan

variable {p : Char → Bool} {c : Char} {cs rest : List Char}

theorem takeWhile_of_ends (hp : ∀ c, p c = true → Text.isWordPart c = true) (hrest : Ends rest) :
    rest.takeWhile p = [] := by
  cases rest with
  | nil => rfl
  | cons c rest =>
    refine List.takeWhile_cons_of_neg fun hc => ?_
    have hpart := hrest c rfl
    rw [hp c hc] at hpart
    cases hpart

theorem dropWhile_of_ends (hp : ∀ c, p c = true → Text.isWordPart c = true) (hrest : Ends rest) :
    rest.dropWhile p = rest := by
  have happ := List.takeWhile_append_dropWhile (p := p) (l := rest)
  rwa [takeWhile_of_ends hp hrest] at happ

theorem not_quote (h : Text.isWordPart c = true) : ¬ (c = '"' ∨ c = '\'') := by
  rintro (rfl | rfl)
  · exact absurd h (by decide)
  · exact absurd h (by decide)

theorem scan_word (point : Bool) (hc : Text.isWordStart c = true)
    (hcs : ∀ d ∈ cs, Text.isWordPart d = true) (hrest : Ends rest) :
    scan point c (cs ++ rest) = (.ok (wordToken (String.ofList (c :: cs))), rest) := by
  have hquote := not_quote (Text.isWordPart_of_isWordStart hc)
  have hdigit : ¬ Decimal.isDigit c = true := by simp [Text.isDigit_of_isWordStart hc]
  rw [scan, if_neg hquote, if_neg hdigit, if_pos hc, List.takeWhile_append_of_pos hcs,
    List.dropWhile_append_of_pos hcs, takeWhile_of_ends (fun _ h => h) hrest,
    dropWhile_of_ends (fun _ h => h) hrest, List.append_nil]

/-- Digits are an integer, unless a point that may go on with the number comes behind them. -/
theorem scan_digits {point : Bool} {n : Nat} (hn : Decimal.readDigits (c :: cs) = some n)
    (hrest : Ends rest) (hpoint : point = false ∨ rest.head? ≠ some '.') :
    scan point c (cs ++ rest) =
      (match Decimal.toInt64? n with
        | some i => .ok (.int i)
        | none => .error (.tooGreat (c :: cs)), rest) := by
  obtain ⟨⟨-, hdigits⟩, rfl⟩ := Decimal.readDigits_eq_some_iff.1 hn
  have hc : Decimal.isDigit c = true := hdigits c List.mem_cons_self
  have hquote := not_quote (Text.isWordPart_of_isDigit hc)
  have hpart : ∀ d, Decimal.isDigit d = true → Text.isWordPart d = true :=
    fun _ => Text.isWordPart_of_isDigit
  have htake : List.takeWhile Decimal.isDigit (c :: cs ++ rest) = c :: cs := by
    rw [List.takeWhile_append_of_pos hdigits, takeWhile_of_ends hpart hrest, List.append_nil]
  have hdrop : List.dropWhile Decimal.isDigit (c :: cs ++ rest) = rest := by
    rw [List.dropWhile_append_of_pos hdigits, dropWhile_of_ends hpart hrest]
  rw [scan, if_neg hquote, if_pos hc, ← List.cons_append]
  simp only [scanNumber, htake, hdrop]
  split
  · rcases hpoint with rfl | hpoint
    · rfl
    · exact absurd rfl hpoint
  · rfl

/-- The canonical digits of a number are scanned as one integer. -/
theorem scan_toDigits_append (m : Nat) :
    ∃ c cs, Nat.toDigits 10 m = c :: cs ∧ Text.isBlank c = false ∧
      ∀ point rest, Ends rest → rest.head? ≠ some '.' →
        scan point c (cs ++ rest) =
          (match Decimal.toInt64? m with
            | some i => .ok (.int i)
            | none => .error (.tooGreat (c :: cs)), rest) := by
  obtain ⟨c, cs, hcs⟩ := List.exists_cons_of_ne_nil (Nat.toDigits_ne_nil (n := m) (b := 10))
  have hdigit : Decimal.isDigit c = true :=
    Decimal.isDigit_of_mem_toDigits (hcs ▸ List.mem_cons_self)
  have hread : Decimal.readDigits (c :: cs) = some m := hcs ▸ Decimal.readDigits_toDigits m
  have hblank := Text.isBlank_of_isWordPart (Text.isWordPart_of_isDigit hdigit)
  exact ⟨c, cs, hcs, hblank, fun point rest hrest hpoint => scan_digits hread hrest (.inr hpoint)⟩

/-- Behind a dot a segment is one token, whatever follows it. -/
theorem scan_segment {segment : String} (h : IsSegment segment) (hrest : Ends rest) :
    ∃ c cs, segment.toList = c :: cs ∧ Text.isBlank c = false ∧
      scan false c (cs ++ rest) = (segmentToken segment, rest) := by
  rcases h with hword | hdigits
  · obtain ⟨c, cs, hlist, hc, hcs⟩ := Text.exists_of_isWord hword
    have hno := Decimal.readDigits_of_isWord hword
    refine ⟨c, cs, hlist, Text.isBlank_of_isWordPart (Text.isWordPart_of_isWordStart hc), ?_⟩
    rw [scan_word false hc hcs hrest, segmentToken, hno, ← hlist, String.ofList_toList]
  · obtain ⟨n, hn⟩ := Option.isSome_iff_exists.1 hdigits
    obtain ⟨⟨hne, hall⟩, -⟩ := Decimal.readDigits_eq_some_iff.1 hn
    obtain ⟨c, cs, hlist⟩ := List.exists_cons_of_ne_nil hne
    have hc : Decimal.isDigit c = true := hall c (hlist ▸ List.mem_cons_self)
    refine ⟨c, cs, hlist, Text.isBlank_of_isWordPart (Text.isWordPart_of_isDigit hc), ?_⟩
    rw [scan_digits (hlist ▸ hn) hrest (.inl rfl), segmentToken, hn, hlist]

end Scan

theorem isStop_of_segmentToken {segment : String} {t : Token} (h : segmentToken segment = .ok t) :
    t.isStop = false := by
  unfold segmentToken at h
  split at h
  · split at h
    · cases h
      rfl
    · cases h
  · cases h
    exact isStop_wordToken segment

theorem fault_of_segmentToken {segment : String} {snag : Snag}
    (h : segmentToken segment = .error snag) (start stop : Position) :
    (snag.fault start stop).OfSegment := by
  unfold segmentToken at h
  split at h
  · split at h
    · cases h
    · cases h
      exact trivial
  · cases h

namespace Cursor

variable {k : Cursor} {c : Char} {cs rest : List Char}

theorem next_of_nil (hk : k.rest = []) : ∃ pos, k.next = (.ok .stop, ⟨[], pos, false⟩) := by
  have hskip : k.skipBlanks.rest = [] := by
    rw [skipBlanks, hk]
    rfl
  unfold next
  simp only [hskip]
  exact ⟨_, rfl⟩

/-- Behind the blanks the next token is the one that is scanned there. -/
theorem next_of_skipBlanks (hk : k.skipBlanks.rest = c :: cs) {t : Token}
    (hscan : scan (!k.afterDot) c cs = (.ok t, rest)) :
    ∃ pos, k.next = (.ok t, ⟨rest, pos, t.isSymbol .dot⟩) := by
  unfold next
  simp only [hk]
  exact ⟨_, by rw [skipBlanks, hscan]; rfl⟩

section

variable (hk : k.rest = c :: cs) (hc : Text.isBlank c = false)

include hk hc

theorem skipBlanks_of_not_blank : k.skipBlanks.rest = c :: cs := by
  rw [skipBlanks, hk, List.dropWhile_cons_of_neg (by simp [hc])]

theorem next_of_scan {t : Token} (hscan : scan (!k.afterDot) c cs = (.ok t, rest)) :
    ∃ pos, k.next = (.ok t, ⟨rest, pos, t.isSymbol .dot⟩) :=
  next_of_skipBlanks (skipBlanks_of_not_blank hk hc) hscan

theorem next_of_scan_error {snag : Snag} (hscan : scan (!k.afterDot) c cs = (.error snag, rest)) :
    ∃ start stop k', k.next = (.error (snag.fault start stop), k') := by
  unfold next
  simp only [skipBlanks_of_not_blank hk hc]
  exact ⟨_, _, _, by rw [skipBlanks, hscan]⟩

end

variable {k' : Cursor} (fuel : Nat)

theorem lexemes_of_next {t : Token} (h : k.next = (.ok t, k')) (ht : t.isStop = false) :
    k.lexemes (fuel + 1) = .ok ⟨t, k'.pos⟩ :: k'.lexemes fuel := by
  rw [lexemes, h]
  simp [ht]

theorem lexemes_of_next_error {fault : Fault} (h : k.next = (.error fault, k')) :
    k.lexemes (fuel + 1) = [.error fault] := by
  rw [lexemes, h]

end Cursor

/-- The text of segments with a dot in front of each. -/
def dots (path : Path) : List Char := path.flatMap fun segment => '.' :: segment.toList

theorem ends_dots (path : Path) : Ends (dots path) := by
  intro c hc
  cases path with
  | nil => cases hc
  | cons segment path =>
    cases hc
    decide

/-- The lexemes of segments with a dot in front of each, up to the end or to the first segment
without a token. -/
inductive Stream.Dotted : Path → Stream → Prop
  | nil {pos : Position} : Dotted [] [.ok ⟨.stop, pos⟩]
  | token {segment : String} {t : Token} {pos pos' : Position} {path : Path} {st : Stream} :
      segmentToken segment = .ok t → Dotted path st →
      Dotted (segment :: path) (.ok ⟨.symbol .dot, pos⟩ :: .ok ⟨t, pos'⟩ :: st)
  | snag {segment : String} {snag : Snag} {pos start stop : Position} {path : Path} :
      segmentToken segment = .error snag →
      Dotted (segment :: path) [.ok ⟨.symbol .dot, pos⟩, .error (snag.fault start stop)]

theorem lexemes_dots {path : Path} (hpath : ∀ s ∈ path, IsSegment s) {k : Cursor}
    (hk : k.rest = dots path) {fuel : Nat} (hfuel : k.rest.length < fuel) :
    Stream.Dotted path (k.lexemes fuel) := by
  induction path generalizing k fuel with
  | nil =>
    obtain ⟨fuel, rfl⟩ := Nat.exists_eq_succ_of_ne_zero (Nat.ne_zero_of_lt hfuel)
    obtain ⟨pos, hnext⟩ := Cursor.next_of_nil hk
    rw [Cursor.lexemes, hnext]
    exact .nil
  | cons segment path ih =>
    obtain ⟨hsegment, hpath⟩ := List.forall_mem_cons.1 hpath
    obtain ⟨c, cs, hlist, hblank, hscan⟩ := scan_segment hsegment (ends_dots path)
    have hrest : k.rest = '.' :: c :: (cs ++ dots path) := by simp [hk, dots, hlist]
    rw [hrest, List.length_cons, List.length_cons, List.length_append] at hfuel
    obtain ⟨fuel, rfl⟩ : ∃ n, fuel = n + 2 := ⟨fuel - 2, by omega⟩
    -- the cursor steps over the dot first, and from there over the segment
    obtain ⟨pos, hnext⟩ := Cursor.next_of_scan hrest (by decide) rfl
    have hdot := Cursor.lexemes_of_next (fuel + 1) hnext rfl
    cases htoken : segmentToken segment with
    | ok t =>
      rw [htoken] at hscan
      obtain ⟨pos', hnext'⟩ := Cursor.next_of_scan (k := ⟨_, pos, true⟩) rfl hblank hscan
      have ht := Cursor.lexemes_of_next fuel hnext' (isStop_of_segmentToken htoken)
      have hlen : (dots path).length < fuel := by omega
      rw [hdot.trans (congrArg (_ :: ·) ht)]
      exact .token htoken (ih hpath rfl hlen)
    | error snag =>
      rw [htoken] at hscan
      obtain ⟨start, stop, k', hnext'⟩ :=
        Cursor.next_of_scan_error (k := ⟨_, pos, true⟩) rfl hblank hscan
      rw [hdot.trans (congrArg (_ :: ·) (Cursor.lexemes_of_next_error fuel hnext'))]
      exact .snag htoken

/-! ### Reading -/

namespace Parse

open PathBag.Code.Stream

theorem ahead_of_dotted {path : Path} {st : Stream} (h : Dotted path st) : Past Grammar.never st := by
  cases h with
  | nil | token | snag => exact ⟨_, rfl, fun _ _ => rfl⟩

/-- Segments are read as they are spelled, up to the end. -/
theorem segments_of_dotted {path : Path} {st : Stream} (h : Dotted path st) {fuel : Nat}
    (hfuel : st.length ≤ fuel) :
    ∃ pos, Respells path (fun names => (names, [.ok ⟨.stop, pos⟩])) (segments fuel st) := by
  induction h generalizing fuel with
  | @nil pos =>
    obtain ⟨fuel, rfl⟩ := Nat.exists_eq_succ_of_ne_zero (Nat.ne_zero_of_lt hfuel)
    exact ⟨pos, .nil _⟩
  | @token segment t pos pos' path st htoken hpath ih =>
    rw [List.length_cons, List.length_cons] at hfuel
    obtain ⟨fuel, rfl⟩ := Nat.exists_eq_succ_of_ne_zero (Nat.ne_zero_of_lt hfuel)
    obtain ⟨stop, hnames⟩ := @ih fuel (by omega)
    refine ⟨stop, ?_⟩
    have hbump : bump (.ok ⟨t, pos'⟩ :: st) = .ok (t, st) := bump_cons pos' (ahead_of_dotted hpath)
    have hstep : segments (fuel + 1) (.ok ⟨.symbol .dot, pos⟩ :: .ok ⟨t, pos'⟩ :: st) =
        Parse.segment (.ok ⟨t, pos'⟩ :: st) >>= fun first =>
          segments fuel first.2 >>= fun more => .ok (first.1 :: more.1, more.2) := rfl
    rw [hstep, Parse.segment, hbump, ok_bind]
    dsimp only
    cases hname : segment? t with
    | none =>
      have hnone : respell segment = none := by simp [respell, htoken, hname]
      have hfault : (Fault.noSegment t (here st)).OfSegment := trivial
      exact .cons_none hnone hfault _
    | some name =>
      have hsome : respell segment = some name := by simp [respell, htoken, hname]
      exact .cons_some hsome (hnames.bind fun names => rfl)
  | @snag segment snag pos start stop path htoken =>
    obtain ⟨fuel, rfl⟩ := Nat.exists_eq_succ_of_ne_zero (Nat.ne_zero_of_lt hfuel)
    have hnone : respell segment = none := by simp [respell, htoken]
    exact ⟨.origin, .cons_none hnone (fault_of_segmentToken htoken start stop) _⟩

/-- Chains of operators end with the tokens. -/
theorem chains_of_stop {operand : Parse Expr} {st : Stream}
    (h : ∀ e st', operand st = .ok (e, st') → ∃ pos, st' = [.ok ⟨.stop, pos⟩])
    (levels : List (List (Symbol × BinaryOp))) : chains operand levels st = operand st := by
  induction levels with
  | nil => rfl
  | cons level levels ih =>
    rw [chains, chain, ih]
    cases hoperand : operand st with
    | error fault => rfl
    | ok result =>
      obtain ⟨e, st'⟩ := result
      obtain ⟨pos, rfl⟩ := h e st' hoperand
      rfl

section Word

variable {path : Path} {st : Stream} (h : Dotted path st) (inner : Parse Expr) (name : String)
  (pos : Position)

include h

theorem primary_of_dotted :
    ∃ stop, Respells path (fun names => (.path (name :: names), [.ok ⟨.stop, stop⟩]))
      (primary inner (.ok ⟨.word name, pos⟩ :: st)) := by
  obtain ⟨stop, hnames⟩ := segments_of_dotted h (Nat.le_refl _)
  have hbump : bump (.ok ⟨.word name, pos⟩ :: st) = .ok (.word name, st) :=
    bump_cons pos (ahead_of_dotted h)
  have heat : eat .leftParen st = .ok (false, st) := by
    cases h with
    | nil | token | snag => exact eat_other rfl rfl
  refine ⟨stop, ?_⟩
  rw [primary, hbump, ok_bind]
  dsimp only
  rw [heat, ok_bind]
  exact hnames.bind fun names => rfl

theorem exprWith_of_dotted :
    ∃ stop, Respells path (fun names => (.path (name :: names), [.ok ⟨.stop, stop⟩]))
      (exprWith inner (.ok ⟨.word name, pos⟩ :: st)) := by
  obtain ⟨stop, hprimary⟩ := primary_of_dotted h inner name pos
  have hunary : unary (primary inner) (st.length + 1) (.ok ⟨.word name, pos⟩ :: st) =
      primary inner (.ok ⟨.word name, pos⟩ :: st) := rfl
  -- the operand goes to the end, so no operator comes behind it
  have hchains : chains (fun st => unary (primary inner) st.length st) levels
      (.ok ⟨.word name, pos⟩ :: st) = primary inner (.ok ⟨.word name, pos⟩ :: st) := by
    refine (chains_of_stop (fun e st' hok => ?_) levels).trans hunary
    obtain ⟨names, heq⟩ := hprimary.exists_of_ok hok
    exact ⟨stop, (Prod.mk.inj heq).2⟩
  refine ⟨stop, ?_⟩
  rw [exprWith, hchains]
  exact hprimary.bind fun names => rfl

/-- A name with segments is a path. -/
theorem snippet_of_dotted :
    Respells path (fun names => .path (name :: names)) (snippet (.ok ⟨.word name, pos⟩ :: st)) := by
  obtain ⟨stop, hexpr⟩ := exprWith_of_dotted h (expr st.length) name pos
  exact hexpr.bind fun names => rfl

end Word

end Parse

theorem toList_dotted (first : String) (path : Path) :
    (Path.dotted (first :: path)).toList = first.toList ++ dots path := by
  rw [Path.toList_dotted, List.map_cons, intercalate_cons, List.flatMap_map, dots]

/-- **A path in code.**  The text of a path that starts with a name is read as the path of this name
and the other segments as they are spelled. -/
theorem parse_dotted {first : String} (hfirst : Text.isWord first.toList = true)
    (hname : wordToken first = .word first) {path : Path} (hpath : ∀ s ∈ path, IsSegment s) :
    Respells path (fun names => .path (first :: names)) (parse (Path.dotted (first :: path))) := by
  obtain ⟨c, cs, hlist, hc, hcs⟩ := Text.exists_of_isWord hfirst
  have htext : (Path.dotted (first :: path)).toList = c :: (cs ++ dots path) := by
    rw [toList_dotted, hlist, List.cons_append]
  have hscan : scan true c (cs ++ dots path) = (.ok (.word first), dots path) := by
    rw [scan_word true hc hcs (ends_dots path), ← hlist, String.ofList_toList, hname]
  have hblank := Text.isBlank_of_isWordPart (Text.isWordPart_of_isWordStart hc)
  obtain ⟨pos, hnext⟩ :=
    Cursor.next_of_scan (k := .start (Path.dotted (first :: path))) htext hblank hscan
  have hdots : Stream.Dotted path (Cursor.lexemes (Path.dotted (first :: path)).toList.length
      ⟨dots path, pos, false⟩) := by
    refine lexemes_dots hpath rfl ?_
    rw [htext, List.length_cons, List.length_append]
    show (dots path).length < _
    omega
  have hcode : Stream.ofCode (Path.dotted (first :: path)) = _ :=
    Cursor.lexemes_of_next _ hnext rfl
  rw [parse, hcode]
  exact Parse.snippet_of_dotted hdots first pos

end Code

end PathBag
