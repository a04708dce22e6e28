import PathBag.Proofs.Code.Completeness

/-!
# The token ahead

The parser looks one token ahead, and `Parse.bump` takes that token.  A fault of the lexer leaves
nothing ahead, and so would the end of the text if the end token were not kept.  That no call of
`bump` ever meets such a state is a fact about the calls and not only about what comes of them, so
the parts of the parser stand here once more, each with a log of what is ahead when `bump` is
called (`Logged`).  `Logged.bump` alone takes tokens and writes the log.

A part with a log `Follows` the part of the same name when both come to the same outcome, every
entry made in the log is a token, and a token is ahead of what is left; a fault is one of the lexer,
or tells of a token that was not the one needed.  There is one lemma for each part, in the order of
the parser, up to `parse_tracks`.
-/

namespace PathBag

/-- The fault says of a token that it came where another was needed: a symbol, the start of an
operand or a segment of a path. -/
inductive Fault.Refuses (t : Code.Token) : Fault → Prop
  | wrongToken (wanted : Code.Symbol) (pos : Code.Position) : Refuses t (.wrongToken wanted t pos)
  | noOperand (pos : Code.Position) : Refuses t (.noOperand t pos)
  | noSegment (pos : Code.Position) : Refuses t (.noSegment t pos)

/-- The fault is one of the lexer, or tells of a token that was not the one needed or that is not
the end behind a snippet. -/
inductive Fault.IsSyntactic : Fault → Prop
  | lexical {fault : Fault} : fault.IsLexical → IsSyntactic fault
  | refused {t : Code.Token} {fault : Fault} : fault.Refuses t → IsSyntactic fault
  | trailing {t : Code.Token} {pos : Code.Position} : t.isStop = false →
      IsSyntactic (.trailingToken t pos)

/-- The report on the fault has one of these codes. -/
def Fault.HasCode (codes : List Nat) (fault : Fault) : Prop :=
  ∃ code ∈ codes, fault.report.code = some code

theorem Fault.HasCode.code_ne {codes : List Nat} {fault : Fault} (h : fault.HasCode codes)
    {code : Nat} (hcode : code ∉ codes) : fault.report.code ≠ some code := by
  obtain ⟨code', hmem, heq⟩ := h
  rw [heq]
  rintro ⟨⟩
  exact hcode hmem

theorem Fault.Refuses.hasCode {t : Code.Token} {fault : Fault} (h : fault.Refuses t) :
    fault.HasCode [202, 204, 205] := by
  cases h with
  | wrongToken => exact ⟨202, by simp, rfl⟩
  | noOperand => exact ⟨204, by simp, rfl⟩
  | noSegment => exact ⟨205, by simp, rfl⟩

theorem Fault.IsLexical.hasCode {fault : Fault} (h : fault.IsLexical) :
    fault.HasCode [102, 103, 104, 105] := by
  obtain ⟨snag, start, stop, rfl⟩ := h
  cases snag with
  | unclosed => exact ⟨103, by simp, rfl⟩
  | stray => exact ⟨104, by simp, rfl⟩
  | half => exact ⟨105, by simp, rfl⟩
  | tooGreat => exact ⟨102, by simp, rfl⟩

theorem Fault.IsSyntactic.code_ne {fault : Fault} (h : fault.IsSyntactic) :
    fault.report.code ≠ some 201 := by
  cases h with
  | lexical h => exact h.hasCode.code_ne (by simp)
  | refused h => exact h.hasCode.code_ne (by simp)
  | trailing => exact Fault.HasCode.code_ne ⟨203, List.mem_singleton_self _, rfl⟩ (by simp)

namespace Code

/-! ### The parser with a log -/

/-- Work that may stop at a fault, with a log of what was ahead at each call of `bump`.  The last
call stands first, and a fault keeps the log. -/
abbrev Log (α : Type) := ExceptT Fault (StateM (List (Option Token))) α

/-- What reads a part of a stream and keeps a log. -/
abbrev Logged (α : Type) := Stream → Log (α × Stream)

namespace Logged

open Parse (peek here unaryOp? segment? levels)

/-- Writes down what is ahead and takes it. -/
def bump : Logged Token := fun st => do
  modify (peek st :: ·)
  MonadExcept.ofExcept (Parse.bump st)

/-- `Parse.eat` with a log. -/
def eat (s : Symbol) : Logged Bool := fun st =>
  match peek st with
  | some token =>
    if token.isSymbol s then do
      let (_, st) ← bump st
      return (true, st)
    else return (false, st)
  | none => return (false, st)

/-- `Parse.expect` with a log. -/
def expect (s : Symbol) : Logged Unit := fun st => do
  let (token, st) ← bump st
  if token.isSymbol s then return ((), st)
  else throw (.wrongToken s token (here st))

/-- `Parse.chainTail` with a log. -/
def chainTail (level : List (Symbol × BinaryOp)) (operand : Logged Expr) :
    (fuel : Nat) → Expr → Logged Expr
  | 0, _, st => throw (.outOfTokens (here st))
  | fuel + 1, left, st =>
    match peek st with
    | some (.symbol s) =>
      match level.lookup s with
      | some op => do
        let (_, st) ← bump st
        let (right, st) ← operand st
        chainTail level operand fuel (.binary op left right) st
      | none => return (left, st)
    | _ => return (left, st)

/-- `Parse.chain` with a log. -/
def chain (level : List (Symbol × BinaryOp)) (operand : Logged Expr) : Logged Expr := fun st => do
  let (left, st) ← operand st
  chainTail level operand st.length left st

/-- `Parse.chains` with a log. -/
def chains (operand : Logged Expr) : List (List (Symbol × BinaryOp)) → Logged Expr
  | [] => operand
  | level :: tighter => chain level (chains operand tighter)

/-- `Parse.unary` with a log. -/
def unary (primary : Logged Expr) : (fuel : Nat) → Logged Expr
  | 0, st => throw (.outOfTokens (here st))
  | fuel + 1, st =>
    match (peek st).bind unaryOp? with
    | some op => do
      let (_, st) ← bump st
      let (operand, st) ← unary primary fuel st
      return (.unary op operand, st)
    | none => primary st

/-- `Parse.argumentsTail` with a log. -/
def argumentsTail (expr : Logged Expr) (close : Symbol) : (fuel : Nat) → Logged (List Expr)
  | 0, st => throw (.outOfTokens (here st))
  | fuel + 1, st => do
    let (item, st) ← expr st
    let (more, st) ← eat .comma st
    if more then
      let (items, st) ← argumentsTail expr close fuel st
      return (item :: items, st)
    else
      let (_, st) ← expect close st
      return ([item], st)

/-- `Parse.arguments` with a log. -/
def arguments (expr : Logged Expr) (close : Symbol) : Logged (List Expr) := fun st => do
  let (closed, st) ← eat close st
  if closed then return ([], st)
  else argumentsTail expr close st.length st

/-- `Parse.segment` with a log. -/
def segment : Logged String := fun st => do
  let (token, st) ← bump st
  match segment? token with
  | some name => return (name, st)
  | none => throw (.noSegment token (here st))

/-- `Parse.segments` with a log. -/
def segments : (fuel : Nat) → Logged Path
  | 0, st => throw (.outOfTokens (here st))
  | fuel + 1, st =>
    match peek st with
    | some (.symbol .dot) => do
      let (_, st) ← bump st
      let (name, st) ← segment st
      let (names, st) ← segments fuel st
      return (name :: names, st)
    | some (.symbol .leftBracket) => do
      let (_, st) ← bump st
      let (name, st) ← segment st
      let (_, st) ← expect .rightBracket st
      let (names, st) ← segments fuel st
      return (name :: names, st)
    | _ => return ([], st)

/-- `Parse.primary` with a log. -/
def primary (expr : Logged Expr) : Logged Expr := fun st => do
  let (token, st) ← bump st
  match token with
  | .int n => return (.literal (.int n), st)
  | .float x => return (.literal (.float x), st)
  | .string s => return (.literal (.string s), st)
  | .bool b => return (.literal (.bool b), st)
  | .null => return (.literal .null, st)
  | .symbol .leftParen =>
    let (inner, st) ← expr st
    let (_, st) ← expect .rightParen st
    return (inner, st)
  | .symbol .leftBracket =>
    let (items, st) ← arguments expr .rightBracket st
    return (.list items, st)
  | .word name =>
    let (called, st) ← eat .leftParen st
    if called then
      let (items, st) ← arguments expr .rightParen st
      return (.call name items, st)
    else
      let (names, st) ← segments st.length st
      return (.path (name :: names), st)
  | token => throw (.noOperand token (here st))

/-- `Parse.exprWith` with a log. -/
def exprWith (inner : Logged Expr) : Logged Expr := fun st => do
  let (condition, st) ← chains (fun st => unary (primary inner) st.length st) levels st
  let (asked, st) ← eat .question st
  if asked then
    let (yes, st) ← inner st
    let (_, st) ← expect .colon st
    let (no, st) ← inner st
    return (.cond condition yes no, st)
  else return (condition, st)

/-- `Parse.expr` with a log. -/
def expr : (fuel : Nat) → Logged Expr
  | 0, st => throw (.outOfTokens (here st))
  | fuel + 1, st => exprWith (expr fuel) st

/-- `Parse.snippet` with a log. -/
def snippet (st : Stream) : Log Expr := do
  let (_, st) ← match peek st with
    | some .ret => bump st
    | _ => pure (.stop, st)
  let (result, st) ← expr st.length st
  let (_, st) ← eat .semicolon st
  match peek st with
  | some .stop => return result
  | some token => throw (.trailingToken token (here st))
  | none => throw (.outOfTokens (here st))

/-- The expression that a text of code holds, with a log of the calls of `bump`. -/
def parse (code : String) : Log Expr :=
  match Stream.ofCode code with
  | .error fault :: _ => throw fault
  | st => snippet st

/-! ### Outcome and log -/

/-- Every call found a token ahead. -/
def Steady (log : List (Option Token)) : Prop := ∀ slot ∈ log, slot.isSome = true

/-- A token is ahead, and no faults are in the stream but those of the lexer. -/
structure Fits (st : Stream) : Prop where
  ahead : (peek st).isSome = true
  lexical : ∀ fault, .error fault ∈ st → fault.IsLexical

/-- The work with a log comes to the same outcome as the work without, and keeps the log steady.
What it ends in has `Q`, and what it stops at is syntactic unless a bound was too narrow. -/
structure Tracks {α : Type} (Q : α → Prop) (x : Log α) (y : Except Fault α) : Prop where
  ends : EndsIn (fun fault => fault.InBounds → fault.IsSyntactic) Q y
  run : ∀ log, Steady log → ∃ log', Steady log' ∧ x.run.run log = (y, log')

/-- The part with a log does what the part without does, and leaves a token ahead. -/
def Follows {α : Type} (p : Logged α) (q : Parse α) : Prop :=
  ∀ st, Fits st → Tracks (fun r : α × Stream => Fits r.2) (p st) (q st)

section

variable {α β : Type} {st : Stream} {Q : α → Prop} {Q' : β → Prop}

theorem tracks_ok {a : α} (h : Q a) : Tracks Q (pure a) (.ok a) :=
  ⟨h, fun log hlog => ⟨log, hlog, rfl⟩⟩

theorem tracks_error {fault : Fault} (h : fault.InBounds → fault.IsSyntactic) :
    Tracks Q (throw fault) (.error fault) :=
  ⟨h, fun log hlog => ⟨log, hlog, rfl⟩⟩

theorem tracks_refused {t : Token} {fault : Fault} (h : fault.Refuses t) :
    Tracks Q (throw fault) (.error fault) := tracks_error fun _ => .refused h

theorem tracks_bounds (pos : Position) :
    Tracks Q (throw (.outOfTokens pos)) (.error (.outOfTokens pos)) :=
  tracks_error fun h => (h pos rfl).elim

theorem Tracks.bind {x : Log β} {y : Except Fault β} {f : β → Log α} {g : β → Except Fault α}
    (h : Tracks Q' x y) (hf : ∀ b, Q' b → Tracks Q (f b) (g b)) :
    Tracks Q (x >>= f) (y >>= g) := by
  refine ⟨h.ends.bind fun b hb => (hf b hb).ends, fun log hlog => ?_⟩
  obtain ⟨mid, hmid, hrun⟩ := h.run log hlog
  rw [ExceptT.run_bind, StateT.run_bind, hrun]
  cases y with
  | error fault => exact ⟨mid, hmid, rfl⟩
  | ok b => exact (hf b h.ends).run mid hmid

/-- A part, and then the rest of the work on what it leaves. -/
theorem Follows.andThen {p : Logged β} {q : Parse β} (hp : Follows p q)
    (hst : Fits st) {f : β × Stream → Log α} {g : β × Stream → Except Fault α}
    (hf : ∀ b st', Fits st' → Tracks Q (f (b, st')) (g (b, st'))) :
    Tracks Q (p st >>= f) (q st >>= g) :=
  (hp st hst).bind fun ⟨b, st'⟩ h => hf b st' h

theorem Fits.exists_peek (h : Fits st) : ∃ t, peek st = some t :=
  Option.isSome_iff_exists.1 h.ahead

end

theorem bump_endsIn {st : Stream} (hst : Fits st) :
    EndsIn (fun fault => fault.InBounds → fault.IsSyntactic) (fun r => Fits r.2)
      (Parse.bump st) := by
  have hlexical {fault : Fault} (h : .error fault ∈ st) : fault.InBounds → fault.IsSyntactic :=
    fun _ => .lexical (hst.lexical fault h)
  unfold Parse.bump
  split
  · exact fun h => (h _ rfl).elim
  · exact hlexical List.mem_cons_self
  · exact hst
  · exact hlexical (by simp)
  · next lexeme next rest hnext =>
    refine ⟨?_, fun fault hmem => hst.lexical fault (List.mem_cons_of_mem _ hmem)⟩
    cases next with
    | error fault => exact (hnext fault rfl).elim
    | ok lexeme => rfl

theorem bump_follows : Follows bump Parse.bump := by
  refine fun st hst => ⟨bump_endsIn hst, fun log hlog => ?_⟩
  refine ⟨peek st :: log, List.forall_mem_cons.2 ⟨hst.ahead, hlog⟩, ?_⟩
  unfold bump
  cases Parse.bump st <;> rfl

theorem eat_follows (s : Symbol) : Follows (eat s) (Parse.eat s) := by
  intro st hst
  obtain ⟨t, ht⟩ := hst.exists_peek
  unfold eat Parse.eat
  simp only [ht]
  split
  · exact bump_follows.andThen hst fun _ _ h => tracks_ok h
  · exact tracks_ok hst

theorem expect_follows (s : Symbol) : Follows (expect s) (Parse.expect s) := by
  intro st hst
  unfold expect Parse.expect
  refine bump_follows.andThen hst fun token st h => ?_
  dsimp only
  split
  · exact tracks_ok h
  · exact tracks_refused (.wrongToken s _)

section Operators

variable {operand : Logged Expr} {operand' : Parse Expr} (hop : Follows operand operand')

include hop

theorem chainTail_follows (level : List (Symbol × BinaryOp)) (fuel : Nat) (left : Expr) :
    Follows (chainTail level operand fuel left) (Parse.chainTail level operand' fuel left) := by
  induction fuel generalizing left with
  | zero => exact fun _ _ => tracks_bounds _
  | succ fuel ih =>
    intro st hst
    obtain ⟨t, ht⟩ := hst.exists_peek
    unfold chainTail Parse.chainTail
    simp only [ht]
    cases t with
    | symbol s =>
      dsimp only
      cases level.lookup s with
      | none => exact tracks_ok hst
      | some op =>
        refine bump_follows.andThen hst fun _ st h => ?_
        exact hop.andThen h fun right st h => ih _ st h
    | _ => exact tracks_ok hst

theorem chain_follows (level : List (Symbol × BinaryOp)) :
    Follows (chain level operand) (Parse.chain level operand') :=
  fun _ hst => hop.andThen hst fun left st h => chainTail_follows hop level _ left st h

theorem chains_follows (levels : List (List (Symbol × BinaryOp))) :
    Follows (chains operand levels) (Parse.chains operand' levels) := by
  induction levels with
  | nil => exact hop
  | cons level tighter ih => exact chain_follows ih level

theorem unary_follows (fuel : Nat) :
    Follows (unary operand fuel) (Parse.unary operand' fuel) := by
  induction fuel with
  | zero => exact fun _ _ => tracks_bounds _
  | succ fuel ih =>
    intro st hst
    unfold unary Parse.unary
    cases (peek st).bind unaryOp? with
    | some op =>
      refine bump_follows.andThen hst fun _ st h => ?_
      exact ih.andThen h fun _ _ h => tracks_ok h
    | none => exact hop st hst

theorem argumentsTail_follows (close : Symbol) (fuel : Nat) :
    Follows (argumentsTail operand close fuel) (Parse.argumentsTail operand' close fuel) := by
  induction fuel with
  | zero => exact fun _ _ => tracks_bounds _
  | succ fuel ih =>
    intro st hst
    unfold argumentsTail Parse.argumentsTail
    refine hop.andThen hst fun item st h => ?_
    refine (eat_follows .comma).andThen h fun more st h => ?_
    cases more with
    | true => exact ih.andThen h fun _ _ h => tracks_ok h
    | false => exact (expect_follows close).andThen h fun _ _ h => tracks_ok h

theorem arguments_follows (close : Symbol) :
    Follows (arguments operand close) (Parse.arguments operand' close) := by
  intro st hst
  unfold arguments Parse.arguments
  refine (eat_follows close).andThen hst fun closed st h => ?_
  cases closed with
  | true => exact tracks_ok h
  | false => exact argumentsTail_follows hop close _ st h

end Operators

theorem segment_follows : Follows segment Parse.segment := by
  intro st hst
  unfold segment Parse.segment
  refine bump_follows.andThen hst fun token st h => ?_
  dsimp only
  cases segment? token with
  | some name => exact tracks_ok h
  | none => exact tracks_refused (.noSegment _)

theorem segments_follows (fuel : Nat) : Follows (segments fuel) (Parse.segments fuel) := by
  induction fuel with
  | zero => exact fun _ _ => tracks_bounds _
  | succ fuel ih =>
    intro st hst
    obtain ⟨t, ht⟩ := hst.exists_peek
    unfold segments Parse.segments
    simp only [ht]
    cases t with
    | symbol s =>
      cases s with
      | dot =>
        refine bump_follows.andThen hst fun _ st h => ?_
        refine segment_follows.andThen h fun name st h => ?_
        exact ih.andThen h fun _ _ h => tracks_ok h
      | leftBracket =>
        refine bump_follows.andThen hst fun _ st h => ?_
        refine segment_follows.andThen h fun name st h => ?_
        refine (expect_follows .rightBracket).andThen h fun _ st h => ?_
        exact ih.andThen h fun _ _ h => tracks_ok h
      | _ => exact tracks_ok hst
    | _ => exact tracks_ok hst

section Expressions

variable {inner : Logged Expr} {inner' : Parse Expr} (hin : Follows inner inner')

include hin

theorem primary_follows : Follows (primary inner) (Parse.primary inner') := by
  intro st hst
  unfold primary Parse.primary
  refine bump_follows.andThen hst fun token st h => ?_
  cases token with
  | int | float | string | bool | null => exact tracks_ok h
  | word name =>
    refine (eat_follows .leftParen).andThen h fun called st h => ?_
    cases called with
    | true => exact (arguments_follows hin .rightParen).andThen h fun _ _ h => tracks_ok h
    | false => exact (segments_follows _).andThen h fun _ _ h => tracks_ok h
  | symbol s =>
    cases s with
    | leftParen =>
      refine hin.andThen h fun e st h => ?_
      exact (expect_follows .rightParen).andThen h fun _ _ h => tracks_ok h
    | leftBracket =>
      exact (arguments_follows hin .rightBracket).andThen h fun _ _ h => tracks_ok h
    | _ => exact tracks_refused (.noOperand _)
  | ret | stop => exact tracks_refused (.noOperand _)

theorem exprWith_follows : Follows (exprWith inner) (Parse.exprWith inner') := by
  intro st hst
  unfold exprWith Parse.exprWith
  have hchains : Follows (chains (fun st => unary (primary inner) st.length st) levels)
      (Parse.chains (fun st => Parse.unary (Parse.primary inner') st.length st) levels) :=
    chains_follows (fun st hst => unary_follows (primary_follows hin) _ st hst) levels
  refine hchains.andThen hst fun condition st h => ?_
  refine (eat_follows .question).andThen h fun asked st h => ?_
  cases asked with
  | true =>
    refine hin.andThen h fun yes st h => ?_
    refine (expect_follows .colon).andThen h fun _ st h => ?_
    exact hin.andThen h fun _ _ h => tracks_ok h
  | false => exact tracks_ok h

end Expressions

theorem expr_follows (fuel : Nat) : Follows (expr fuel) (Parse.expr fuel) := by
  induction fuel with
  | zero => exact fun _ _ => tracks_bounds _
  | succ fuel ih => exact exprWith_follows ih

theorem snippet_tracks {st : Stream} (hst : Fits st) :
    Tracks (fun _ => True) (snippet st) (Parse.snippet st) := by
  unfold snippet Parse.snippet
  extract_lets rest rest'
  have hrest (r : Token × Stream) (hr : Fits r.2) :
      Tracks (fun _ => True) (rest r) (rest' r) := by
    refine (expr_follows _).andThen hr fun result st h => ?_
    refine (eat_follows .semicolon).andThen h fun _ st h => ?_
    obtain ⟨t, ht⟩ := h.exists_peek
    simp only [ht]
    cases t with
    | stop => exact tracks_ok trivial
    | _ => exact tracks_error fun _ => .trailing rfl
  obtain ⟨t, ht⟩ := hst.exists_peek
  simp only [ht]
  cases t with
  | ret => exact bump_follows.andThen hst fun t st h => hrest (t, st) h
  | _ => exact hrest (.stop, st) hst

theorem parse_tracks (code : String) : Tracks (fun _ => True) (parse code) (Code.parse code) := by
  have hlexical (fault : Fault) (h : .error fault ∈ Stream.ofCode code) : fault.IsLexical :=
    Stream.isLexical_of_mem_lexemes h
  unfold parse Code.parse
  rcases Stream.ofCode_ready code with ⟨fault, -, heq⟩ | hready
  · rw [heq] at hlexical ⊢
    exact tracks_error fun _ => .lexical (hlexical fault List.mem_cons_self)
  · generalize Stream.ofCode code = st at hlexical hready ⊢
    cases hready <;> exact snippet_tracks ⟨rfl, hlexical⟩

end Logged

/-- The parser never runs out of tokens: its bounds are wide enough, and a token is always ahead. -/
theorem parse_inBounds (code : String) : EndsIn Fault.InBounds (fun _ => True) (parse code) := by
  rcases Stream.ofCode_ready code with ⟨fault, hfault, heq⟩ | hready
  · rw [parse, heq]
    exact hfault
  · rw [parse_eq_snippet hready]
    exact (Parse.snippet_sound hready).imp fun _ _ => trivial

theorem parse_isSyntactic (code : String) :
    EndsIn Fault.IsSyntactic (fun _ => True) (parse code) :=
  ((parse_inBounds code).mp (Logged.parse_tracks code).ends).imp fun _ _ => trivial

end Code

end PathBag
