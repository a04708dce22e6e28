import PathBag.Proofs.Code.Completeness
import PathBag.Proofs.Code.Lookahead

/-!
# Code that ends early

Code ends early when its tokens are the first tokens of a snippet.  The parser then gets as far as
on the whole snippet: it runs on the short stream as on the long one (`Cut`, `Cuts`), until it comes
to what ends the short one, and there it says so (`Early`).

A part that reaches the end without a fault may still have read less than on the whole snippet, as
`a` is read where `a.b` stands.  From there on the two runs are no longer compared: the parts that
follow either need a token and stop (`Starves`), or need none and leave the end (`AtEnd`).
-/

namespace PathBag.Code

namespace Parse

open Grammar PathBag.Code.Stream

/-- What is wrong with code that ends early, by what ends it: a fault of the lexer is that fault,
and the end token came where another was needed. -/
inductive Early : Except Fault Lexeme → Fault → Prop
  | lexical (fault : Fault) : Early (.error fault) fault
  | refused {pos : Position} {fault : Fault} : fault.Refuses .stop → Early (.ok ⟨.stop, pos⟩) fault

/-- The work ends in `Q` or stops for the early end, unless a bound was too narrow. -/
abbrev EndsEarly {α : Type} (last : Except Fault Lexeme) (Q : α → Prop) (x : Except Fault α) :
    Prop := EndsIn (fun fault => fault.InBounds → Early last fault) Q x

/-- Nothing but the end token is left. -/
inductive AtEnd : Except Fault Lexeme → Stream → Prop
  | stop (pos : Position) : AtEnd (.ok ⟨.stop, pos⟩) [.ok ⟨.stop, pos⟩]

/-- The first stream is the second one cut short, with a token of both ahead. -/
inductive Cut (last : Except Fault Lexeme) : Stream → Stream → Prop
  | last {t : Token} {pos pos' : Position} {st' : Stream} : t.isStop = false → Past never st' →
      (∀ lexeme, last = .ok lexeme → lexeme.token = .stop) →
      Cut last [.ok ⟨t, pos⟩, last] (.ok ⟨t, pos'⟩ :: st')
  | token {t : Token} {pos pos' : Position} {st st' : Stream} : t.isStop = false →
      Cut last st st' → Cut last (.ok ⟨t, pos⟩ :: st) (.ok ⟨t, pos'⟩ :: st')

/-- If the long run comes to a result, then the short run comes to a related one or stops for the
early end. -/
def Short {α β : Type} (last : Except Fault Lexeme) (R : α → β → Prop) (x : Except Fault α)
    (y : Except Fault β) : Prop := ∀ b, y = .ok b → EndsEarly last (fun a => R a b) x

/-- The same is read and a stream cut short is left, or the end is left, whatever is read by then. -/
def Kept {α : Type} (last : Except Fault Lexeme) (r r' : α × Stream) : Prop :=
  (r.1 = r'.1 ∧ Cut last r.2 r'.2) ∨ AtEnd last r.2

/-- On a stream cut short the part keeps to its run on the whole one up to the end. -/
def Cuts {α : Type} (last : Except Fault Lexeme) (p p' : Parse α) : Prop :=
  ∀ st st', Cut last st st' → Short last (Kept last) (p st) (p' st')

/-- At the end the part stops. -/
def Starves {α : Type} (last : Except Fault Lexeme) (p : Parse α) : Prop :=
  ∀ st, AtEnd last st → EndsEarly last (fun _ => False) (p st)

section

variable {α β γ δ : Type} {last : Except Fault Lexeme} {st st' : Stream} {R : α → γ → Prop}

theorem Cut.exists_peek (h : Cut last st st') :
    ∃ t, t.isStop = false ∧ peek st = some t ∧ peek st' = some t := by
  cases h with
  | last ht | token ht => exact ⟨_, ht, rfl, rfl⟩

theorem AtEnd.peek_eq (h : AtEnd last st) : peek st = some .stop := by
  cases h
  rfl

theorem AtEnd.bump_eq (h : AtEnd last st) : bump st = .ok (.stop, st) := by
  cases h
  rfl

theorem AtEnd.refuses (h : AtEnd last st) {fault : Fault} (hfault : fault.Refuses .stop)
    {Q : α → Prop} : EndsEarly last Q (.error fault) := by
  cases h
  exact fun _ => .refused hfault

theorem AtEnd.eat_andThen (h : AtEnd last st) {s : Symbol} {f : Bool × Stream → Except Fault α}
    {Q : α → Prop} (hf : EndsEarly last Q (f (false, st))) :
    EndsEarly last Q (eat s st >>= f) := by
  rw [eat_other h.peek_eq rfl]
  exact hf

theorem endsEarly_bounds (pos : Position) {Q : α → Prop} :
    EndsEarly last Q (.error (.outOfTokens pos)) := fun h => (h pos rfl).elim

theorem short_of_error {x : Except Fault α} {fault : Fault} : Short last R x (.error fault) :=
  fun _ h => by cases h

theorem short_ok {a : α} {c : γ} (h : R a c) : Short last R (.ok a) (.ok c) := by
  intro _ heq
  cases heq
  exact h

theorem Short.bind {R' : β → δ → Prop} {x : Except Fault β} {y : Except Fault δ}
    (h : Short last R' x y) {f : β → Except Fault α} {g : δ → Except Fault γ}
    (hf : ∀ b d, R' b d → Short last R (f b) (g d)) : Short last R (x >>= f) (y >>= g) := by
  intro c hc
  obtain ⟨d, hd, hg⟩ := exists_of_bind_eq_ok hc
  exact (h d hd).bind fun b hb => hf b d hb c hg

/-- A part, and then the rest of the work, on what is cut short and at the end. -/
theorem Cuts.andThen {p p' : Parse β} (hp : Cuts last p p') (hst : Cut last st st')
    {f : β × Stream → Except Fault α} {g : β × Stream → Except Fault γ}
    (hcut : ∀ b st st', Cut last st st' → Short last R (f (b, st)) (g (b, st')))
    (hend : ∀ b st r, AtEnd last st → EndsEarly last (fun a => R a r) (f (b, st))) :
    Short last R (p st >>= f) (p' st' >>= g) := by
  refine (hp st st' hst).bind ?_
  rintro ⟨b, st₁⟩ ⟨b', st₁'⟩ (⟨heq, h⟩ | h)
  · obtain rfl : b = b' := heq
    exact hcut b st₁ st₁' h
  · exact fun r _ => hend b st₁ r h

/-- A part of whose result another is made. -/
theorem Cuts.andReturn {p p' : Parse β} (hp : Cuts last p p') (hst : Cut last st st')
    {f : β × Stream → Except Fault (α × Stream)} (hf : ∀ b, ∃ a, ∀ st, f (b, st) = .ok (a, st)) :
    Short last (Kept last) (p st >>= f) (p' st' >>= f) := by
  refine hp.andThen hst (fun b st st' h => ?_) fun b st _ h => ?_ <;> obtain ⟨a, ha⟩ := hf b
  · rw [ha, ha]
    exact short_ok (.inl ⟨rfl, h⟩)
  · rw [ha]
    exact .inr h

/-- A part that stops at the end, and then any work. -/
theorem Starves.andThen {p : Parse β} (hp : Starves last p) (hst : AtEnd last st)
    {f : β × Stream → Except Fault α} {Q : α → Prop} : EndsEarly last Q (p st >>= f) :=
  (hp st hst).bind fun _ h => h.elim

end

variable {last : Except Fault Lexeme}

/-! ### Tokens -/

/-- The same token is taken from both streams, and then the rest of the work. -/
theorem bump_cut {α γ : Type} {R : α → γ → Prop} {st st' : Stream} (hst : Cut last st st')
    {f : Token × Stream → Except Fault α} {g : Token × Stream → Except Fault γ}
    (hcut : ∀ t st st', Cut last st st' → Short last R (f (t, st)) (g (t, st')))
    (hend : ∀ t st st', AtEnd last st → Short last R (f (t, st)) (g (t, st'))) :
    Short last R (bump st >>= f) (bump st' >>= g) := by
  cases hst with
  | @last t pos pos' st' ht hst' hlast =>
    rw [bump_cons pos' hst']
    cases last with
    | error fault => exact fun _ _ _ => .lexical fault
    | ok lexeme =>
      obtain ⟨token, stop⟩ := lexeme
      obtain rfl : token = .stop := hlast _ rfl
      exact hend t _ st' (.stop stop)
  | @token t pos pos' st st' ht hst =>
    obtain ⟨t', -, hpeek, hpeek'⟩ := hst.exists_peek
    have hahead : Past never st := ⟨t', hpeek, fun _ _ => rfl⟩
    have hahead' : Past never st' := ⟨t', hpeek', fun _ _ => rfl⟩
    rw [bump_cons pos hahead, bump_cons pos' hahead']
    exact hcut t st st' hst

theorem eat_cuts (s : Symbol) : Cuts last (eat s) (eat s) := by
  intro st st' hst
  obtain ⟨t, -, ht, ht'⟩ := hst.exists_peek
  unfold eat
  simp only [ht, ht']
  split
  · exact bump_cut hst (fun _ _ _ h => short_ok (.inl ⟨rfl, h⟩)) fun _ _ _ h => short_ok (.inr h)
  · exact short_ok (.inl ⟨rfl, hst⟩)

theorem expect_cuts (s : Symbol) : Cuts last (expect s) (expect s) := by
  intro st st' hst
  unfold expect
  refine bump_cut hst (fun t st st' h => ?_) fun t st st' h => ?_ <;> dsimp only <;> split
  · exact short_ok (.inl ⟨rfl, h⟩)
  · exact short_of_error
  · exact short_ok (.inr h)
  · exact short_of_error

theorem expect_starves (s : Symbol) : Starves last (expect s) := by
  intro st hst
  unfold expect
  rw [hst.bump_eq]
  exact hst.refuses (.wrongToken s _)

/-! ### Operators -/

section Operators

variable {operand operand' : Parse Expr} (hop : Cuts last operand operand')
  (hend : Starves last operand)

theorem chainTail_atEnd {st : Stream} (hst : AtEnd last st) (level : List (Symbol × BinaryOp))
    (fuel : Nat) (left : Expr) :
    EndsEarly last (fun r => AtEnd last r.2) (chainTail level operand fuel left st) := by
  cases fuel with
  | zero => exact endsEarly_bounds _
  | succ fuel =>
    unfold chainTail
    rw [hst.peek_eq]
    exact hst

include hop hend

theorem chainTail_cuts (level : List (Symbol × BinaryOp)) (fuel fuel' : Nat) (left : Expr) :
    Cuts last (chainTail level operand fuel left) (chainTail level operand' fuel' left) := by
  induction fuel generalizing fuel' left with
  | zero => exact fun _ _ _ _ _ => endsEarly_bounds _
  | succ fuel ih =>
    intro st st' hst
    obtain ⟨t, -, ht, ht'⟩ := hst.exists_peek
    cases fuel' with
    | zero => exact short_of_error
    | succ fuel' =>
      unfold chainTail
      simp only [ht, ht']
      cases t with
      | symbol s =>
        dsimp only
        cases level.lookup s with
        | none => exact short_ok (.inl ⟨rfl, hst⟩)
        | some op =>
          -- behind an operator the end is too early, behind its operand it is not
          refine bump_cut hst (fun _ st st' h => ?_) fun _ st st' h _ _ => hend.andThen h
          refine hop.andThen h (fun right st st' h => ih _ _ st st' h) fun right st _ h => ?_
          exact (chainTail_atEnd h level fuel _).imp fun _ h => .inr h
      | _ => exact short_ok (.inl ⟨rfl, hst⟩)

theorem chain_cuts (level : List (Symbol × BinaryOp)) :
    Cuts last (chain level operand) (chain level operand') := by
  intro st st' hst
  refine hop.andThen hst (fun left st st' h => ?_) fun left st _ h => ?_
  · exact chainTail_cuts hop hend level _ _ left st st' h
  · exact (chainTail_atEnd h level _ left).imp fun _ h => .inr h

omit hop in
theorem chains_starves (levels : List (List (Symbol × BinaryOp))) :
    Starves last (chains operand levels) := by
  induction levels with
  | nil => exact hend
  | cons level tighter ih => exact fun _ hst => ih.andThen hst

theorem chains_cuts (levels : List (List (Symbol × BinaryOp))) :
    Cuts last (chains operand levels) (chains operand' levels) := by
  induction levels with
  | nil => exact hop
  | cons level tighter ih => exact chain_cuts ih (chains_starves hend tighter) level

omit hop in
theorem unary_starves (fuel : Nat) : Starves last (unary operand fuel) := by
  intro st hst
  cases fuel with
  | zero => exact endsEarly_bounds _
  | succ fuel =>
    unfold unary
    rw [hst.peek_eq]
    exact hend st hst

theorem unary_cuts (fuel fuel' : Nat) : Cuts last (unary operand fuel) (unary operand' fuel') := by
  induction fuel generalizing fuel' with
  | zero => exact fun _ _ _ _ _ => endsEarly_bounds _
  | succ fuel ih =>
    intro st st' hst
    obtain ⟨t, -, ht, ht'⟩ := hst.exists_peek
    cases fuel' with
    | zero => exact short_of_error
    | succ fuel' =>
      unfold unary
      simp only [ht, ht', Option.bind_some]
      cases unaryOp? t with
      | some op =>
        refine bump_cut hst (fun _ st st' h => ?_) fun _ st st' h _ _ =>
          (unary_starves hend fuel).andThen h
        exact (ih fuel').andReturn h fun _ => ⟨_, fun _ => rfl⟩
      | none => exact hop st st' hst

end Operators

/-! ### Primaries -/

section Primaries

variable {inner inner' : Parse Expr} (hin : Cuts last inner inner') (hend : Starves last inner)

include hend

theorem argumentsTail_starves (close : Symbol) (fuel : Nat) :
    Starves last (argumentsTail inner close fuel) := by
  intro st hst
  cases fuel with
  | zero => exact endsEarly_bounds _
  | succ fuel => exact hend.andThen hst

theorem arguments_starves (close : Symbol) : Starves last (arguments inner close) :=
  fun st hst => hst.eat_andThen (argumentsTail_starves hend close _ st hst)

include hin

theorem argumentsTail_cuts (close : Symbol) (fuel fuel' : Nat) :
    Cuts last (argumentsTail inner close fuel) (argumentsTail inner' close fuel') := by
  induction fuel generalizing fuel' with
  | zero => exact fun _ _ _ _ _ => endsEarly_bounds _
  | succ fuel ih =>
    intro st st' hst
    cases fuel' with
    | zero => exact short_of_error
    | succ fuel' =>
      unfold argumentsTail
      refine hin.andThen hst (fun item st st' h => ?_) fun item st _ h =>
        h.eat_andThen ((expect_starves close).andThen h)
      refine (eat_cuts .comma).andThen h (fun more st st' h => ?_) fun more st _ h => ?_ <;>
        cases more
      · exact (expect_cuts close).andReturn h fun _ => ⟨_, fun _ => rfl⟩
      · exact (ih fuel').andReturn h fun _ => ⟨_, fun _ => rfl⟩
      · exact (expect_starves close).andThen h
      · exact (argumentsTail_starves hend close fuel).andThen h

theorem arguments_cuts (close : Symbol) :
    Cuts last (arguments inner close) (arguments inner' close) := by
  intro st st' hst
  unfold arguments
  refine (eat_cuts close).andThen hst (fun closed st st' h => ?_) fun closed st _ h => ?_ <;>
    cases closed
  · exact argumentsTail_cuts hin hend close _ _ st st' h
  · exact short_ok (.inl ⟨rfl, h⟩)
  · exact (argumentsTail_starves hend close _ st h).imp fun _ h => h.elim
  · exact .inr h

omit hin hend

theorem segment_cuts : Cuts last segment segment := by
  intro st st' hst
  unfold segment
  refine bump_cut hst (fun t st st' h => ?_) fun t st st' h => ?_ <;> dsimp only <;>
    cases segment? t
  · exact short_of_error
  · exact short_ok (.inl ⟨rfl, h⟩)
  · exact short_of_error
  · exact short_ok (.inr h)

theorem segment_starves : Starves last segment := by
  intro st hst
  unfold segment
  rw [hst.bump_eq]
  exact hst.refuses (.noSegment _)

theorem segments_atEnd {st : Stream} (hst : AtEnd last st) (fuel : Nat) :
    EndsEarly last (fun r => AtEnd last r.2) (segments fuel st) := by
  cases fuel with
  | zero => exact endsEarly_bounds _
  | succ fuel =>
    unfold segments
    rw [hst.peek_eq]
    exact hst

theorem segments_cuts (fuel fuel' : Nat) : Cuts last (segments fuel) (segments fuel') := by
  induction fuel generalizing fuel' with
  | zero => exact fun _ _ _ _ _ => endsEarly_bounds _
  | succ fuel ih =>
    intro st st' hst
    obtain ⟨t, -, ht, ht'⟩ := hst.exists_peek
    cases fuel' with
    | zero => exact short_of_error
    | succ fuel' =>
      unfold segments
      simp only [ht, ht']
      cases t with
      | symbol s =>
        cases s with
        | dot =>
          refine bump_cut hst (fun _ st st' h => ?_) fun _ st st' h _ _ => segment_starves.andThen h
          refine segment_cuts.andThen h (fun name st st' h => ?_) fun name st _ h => ?_
          · exact (ih fuel').andReturn h fun _ => ⟨_, fun _ => rfl⟩
          · exact (segments_atEnd h fuel).bind fun _ h => .inr h
        | leftBracket =>
          refine bump_cut hst (fun _ st st' h => ?_) fun _ st st' h _ _ => segment_starves.andThen h
          refine segment_cuts.andThen h (fun name st st' h => ?_) fun name st _ h =>
            (expect_starves _).andThen h
          refine (expect_cuts _).andThen h (fun _ st st' h => ?_) fun _ st _ h => ?_
          · exact (ih fuel').andReturn h fun _ => ⟨_, fun _ => rfl⟩
          · exact (segments_atEnd h fuel).bind fun _ h => .inr h
        | _ => exact short_ok (.inl ⟨rfl, hst⟩)
      | _ => exact short_ok (.inl ⟨rfl, hst⟩)

theorem primary_starves : Starves last (primary inner) := by
  intro st hst
  unfold primary
  rw [hst.bump_eq]
  exact hst.refuses (.noOperand _)

include hin hend

theorem primary_cuts : Cuts last (primary inner) (primary inner') := by
  intro st st' hst
  unfold primary
  refine bump_cut hst (fun t st st' h => ?_) fun t st st' h => ?_
  · cases t with
    | int | float | string | bool | null => exact short_ok (.inl ⟨rfl, h⟩)
    | word name =>
      refine (eat_cuts .leftParen).andThen h (fun called st st' h => ?_) fun called st _ h => ?_ <;>
        cases called
      · exact (segments_cuts _ _).andReturn h fun _ => ⟨_, fun _ => rfl⟩
      · exact (arguments_cuts hin hend .rightParen).andReturn h fun _ => ⟨_, fun _ => rfl⟩
      · exact (segments_atEnd h _).bind fun _ h => .inr h
      · exact (arguments_starves hend .rightParen).andThen h
    | symbol s =>
      cases s with
      | leftParen =>
        refine hin.andThen h (fun e st st' h => ?_) fun e st _ h => (expect_starves _).andThen h
        exact (expect_cuts _).andReturn h fun _ => ⟨_, fun _ => rfl⟩
      | leftBracket =>
        exact (arguments_cuts hin hend .rightBracket).andReturn h fun _ => ⟨_, fun _ => rfl⟩
      | _ => exact short_of_error
    | ret | stop => exact short_of_error
  · cases t with
    | int | float | string | bool | null => exact short_ok (.inr h)
    | word name => exact fun _ _ => h.eat_andThen ((segments_atEnd h _).bind fun _ h => .inr h)
    | symbol s =>
      cases s with
      | leftParen => exact fun _ _ => hend.andThen h
      | leftBracket => exact fun _ _ => (arguments_starves hend .rightBracket).andThen h
      | _ => exact short_of_error
    | ret | stop => exact short_of_error

/-! ### Expressions and snippets -/

omit hin hend in
theorem exprWith_starves : Starves last (exprWith inner) := by
  intro st hst
  have hunary : Starves last (fun st => unary (primary inner) st.length st) :=
    fun st hst => unary_starves primary_starves _ st hst
  exact (chains_starves hunary levels).andThen hst

theorem exprWith_cuts : Cuts last (exprWith inner) (exprWith inner') := by
  intro st st' hst
  unfold exprWith
  have hunary : Cuts last (fun st => unary (primary inner) st.length st)
      (fun st => unary (primary inner') st.length st) := fun st st' hst =>
    unary_cuts (primary_cuts hin hend) primary_starves _ _ st st' hst
  have hstarves : Starves last (fun st => unary (primary inner) st.length st) :=
    fun st hst => unary_starves primary_starves _ st hst
  refine (chains_cuts hunary hstarves levels).andThen hst (fun condition st st' h => ?_)
    fun condition st _ h => h.eat_andThen (.inr h)
  refine (eat_cuts .question).andThen h (fun asked st st' h => ?_) fun asked st _ h => ?_ <;>
    cases asked
  · exact short_ok (.inl ⟨rfl, h⟩)
  · refine hin.andThen h (fun yes st st' h => ?_) fun yes st _ h => (expect_starves _).andThen h
    refine (expect_cuts _).andThen h (fun _ st st' h => ?_) fun _ st _ h => hend.andThen h
    exact hin.andReturn h fun _ => ⟨_, fun _ => rfl⟩
  · exact .inr h
  · exact hend.andThen h

end Primaries

theorem expr_starves (fuel : Nat) : Starves last (expr fuel) := by
  cases fuel with
  | zero => exact fun _ _ => endsEarly_bounds _
  | succ fuel => exact exprWith_starves

theorem expr_cuts (fuel fuel' : Nat) : Cuts last (expr fuel) (expr fuel') := by
  induction fuel generalizing fuel' with
  | zero => exact fun _ _ _ _ _ => endsEarly_bounds _
  | succ fuel ih =>
    cases fuel' with
    | zero => exact fun _ _ _ => short_of_error
    | succ fuel' => exact exprWith_cuts (ih fuel') (expr_starves fuel)

theorem snippet_atEnd {st : Stream} (hst : AtEnd last st) :
    EndsEarly last (fun _ => True) (snippet st) := by
  unfold snippet
  rw [hst.peek_eq]
  exact (expr_starves _).andThen hst

theorem snippet_short {st st' : Stream} (hst : Cut last st st') :
    Short last (fun _ _ => True) (snippet st) (snippet st') := by
  unfold snippet
  extract_lets rest
  have hrest (r r' : Token × Stream) (h : Cut last r.2 r'.2) :
      Short last (fun _ _ => True) (rest r) (rest r') := by
    refine (expr_cuts _ _).andThen h (fun e st st' h => ?_) fun e st _ h => h.eat_andThen ?_
    · refine (eat_cuts .semicolon).andThen h (fun _ st st' h => ?_) fun _ st _ h => ?_
      · -- the whole snippet ends behind the token ahead, which is no end token
        obtain ⟨t, ht, -, hpeek⟩ := h.exists_peek
        dsimp only
        rw [hpeek]
        cases t with
        | stop => cases ht
        | _ => exact short_of_error
      · dsimp only
        rw [h.peek_eq]
        exact trivial
    · dsimp only
      rw [h.peek_eq]
      exact trivial
  obtain ⟨t, -, ht, ht'⟩ := hst.exists_peek
  simp only [ht, ht']
  cases t with
  | ret => exact bump_cut hst (fun t st st' h => hrest (t, st) (t, st') h) fun _ st _ h _ _ =>
      (expr_starves _).andThen h
  | _ => exact hrest (.stop, st) (.stop, st') hst

end Parse

/-! ### Texts -/

open PathBag.Code.Stream

/-- A stream that gives tokens up to its last place gives no others. -/
theorem gives_last_unique {ts us : List Token} {st : Stream} {x y : Except Fault Lexeme}
    (hts : Gives ts st [x]) (hus : Gives us st [y]) : ts = us ∧ x = y := by
  induction ts generalizing us st with
  | nil =>
    cases hts
    cases us with
    | nil =>
      cases hus
      exact ⟨rfl, rfl⟩
    | cons u us =>
      have hlength := hus.length_eq
      simp at hlength
  | cons t ts ih =>
    obtain ⟨pos, mid, rfl, hmid⟩ := gives_cons_iff.1 hts
    cases us with
    | nil =>
      cases hus
      cases hmid
    | cons u us =>
      obtain ⟨_, _, heq, hmid'⟩ := gives_cons_iff.1 hus
      cases heq
      obtain ⟨rfl, rfl⟩ := ih hmid hmid'
      exact ⟨rfl, rfl⟩

theorem cut_of_gives {t : Token} {ts : List Token} {st st' rest : Stream}
    {last : Except Fault Lexeme} (hst : Ready st) (hts : Gives (t :: ts) st [last])
    (hts' : Gives (t :: ts) st' rest) (hrest : Parse.Past Grammar.never rest) :
    Parse.Cut last st st' := by
  induction ts generalizing t st st' with
  | nil =>
    obtain ⟨pos, rfl⟩ := gives_singleton_iff.1 hts
    obtain ⟨pos', rfl⟩ := gives_singleton_iff.1 hts'
    cases hst with
    | fault ht _ => exact .last ht hrest fun _ h => by cases h
    | token ht h =>
      refine .last ht hrest fun lexeme heq => ?_
      subst heq
      cases h with
      | stop => rfl
      | token _ h => cases h
  | cons u ts ih =>
    obtain ⟨pos, mid, rfl, hmid⟩ := gives_cons_iff.1 hts
    obtain ⟨pos', mid', rfl, hmid'⟩ := gives_cons_iff.1 hts'
    cases hst with
    | stop => cases hmid
    | fault => cases hmid
    | token ht h => exact .token ht (ih h hmid hmid')

/-- Code that ends early is a snippet all the same, or the parser says what ends it. -/
theorem parse_endsEarly {code : String} {ts us : List Token} {e : Expr}
    {last : Except Fault Lexeme} (hts : Gives ts (ofCode code) [last])
    (h : Grammar.Snippet (ts ++ us) e) :
    EndsIn (Parse.Early last)
      (fun e' => Grammar.Snippet ts e' ∧ ∃ pos, last = .ok ⟨.stop, pos⟩) (parse code) := by
  rcases ofCode_ready code with ⟨fault, -, heq⟩ | hready
  · rw [heq] at hts
    obtain ⟨-, rfl⟩ := gives_last_unique hts .nil
    rw [parse, heq]
    exact .lexical fault
  · have hearly : Parse.EndsEarly last (fun _ => True) (Parse.snippet (ofCode code)) := by
      cases ts with
      | nil =>
        generalize ofCode code = st at hts hready
        cases hts
        cases hready with
        | stop => exact Parse.snippet_atEnd (.stop _)
        | token _ h => cases h
      | cons t ts =>
        obtain ⟨st', hst'⟩ := exists_gives (t :: ts ++ us) .origin
        obtain ⟨mid, hmid, hus⟩ := gives_append_iff.1 hst'
        have hend : Parse.Past Grammar.never [.ok ⟨.stop, .origin⟩] := .cons (fun _ _ => rfl) _ []
        have hahead : Parse.Past Grammar.never mid :=
          Parse.ahead_of_gives hus hend
        exact Parse.snippet_short (cut_of_gives hready hts hmid hahead) e
          (Parse.snippet_complete h hst')
    rw [parse_eq_snippet hready]
    refine ((Parse.snippet_sound hready).mp hearly).imp ?_
    rintro e' ⟨⟨ts', pos, hsnippet, hgives⟩, -⟩
    obtain ⟨rfl, rfl⟩ := gives_last_unique hgives hts
    exact ⟨hsnippet, pos, rfl⟩

/-- **The parser never runs out of tokens.**  Whenever `bump` is called on the way through a text, a
token is ahead.  So no fault has the code 201: each is one of the lexer, or tells of a token that
was not the one needed, or of a token, not the end, behind a snippet.  Code that ends early, which
is code whose tokens are the first tokens of a snippet, is a snippet all the same, or it stops at
the fault of the lexer that ends it, or at the end token where another was needed. -/
theorem parse_never_runs_out (code : String) :
    (∃ log, (Logged.parse code).run.run [] = (parse code, log) ∧
        ∀ ahead ∈ log, ahead.isSome = true) ∧
      EndsIn (fun fault => fault.report.code ≠ some 201 ∧ fault.IsSyntactic) (fun _ => True)
        (parse code) ∧
      ∀ ts us e last, Gives ts (ofCode code) [last] → Grammar.Snippet (ts ++ us) e →
        EndsIn (fun fault => (last = .error fault ∧ fault.HasCode [102, 103, 104, 105]) ∨
            ((∃ pos, last = .ok ⟨.stop, pos⟩) ∧ fault.Refuses .stop ∧
              fault.HasCode [202, 204, 205]))
          (fun e' => Grammar.Snippet ts e' ∧ ∃ pos, last = .ok ⟨.stop, pos⟩) (parse code) := by
  refine ⟨?_, ?_, fun ts us e last hts hsnippet => ?_⟩
  · obtain ⟨log, hlog, hrun⟩ := (Logged.parse_tracks code).run [] (List.forall_mem_nil _)
    exact ⟨log, hrun, hlog⟩
  · exact (parse_isSyntactic code).mono (fun _ h => ⟨h.code_ne, h⟩) fun _ => id
  · refine (parse_endsEarly hts hsnippet).mono (fun fault h => ?_) fun _ => id
    cases h with
    | lexical =>
      have hmem : .error fault ∈ ofCode code := hts.suffix.subset List.mem_cons_self
      exact .inl ⟨rfl, (isLexical_of_mem_lexemes hmem).hasCode⟩
    | refused h => exact .inr ⟨⟨_, rfl⟩, h, h.hasCode⟩

/-- In `-a[` a segment is missing, and in `f('x` a quote. -/
theorem parse_never_runs_out_open :
    (Gives [.symbol .minus, .word "a", .symbol .leftBracket] (ofCode "-a[")
        [.ok ⟨.stop, ⟨1, 3⟩⟩] ∧
      Grammar.Snippet ([.symbol .minus, .word "a", .symbol .leftBracket] ++
        [.int 0, .symbol .rightBracket]) (.unary .negate (.path ["a", "0"])) ∧
      ∃ fault, parse "-a[" = .error fault ∧ fault.Refuses .stop ∧
        fault.HasCode [202, 204, 205]) ∧
    (Gives [.word "f", .symbol .leftParen] (ofCode "f('x")
        [.error (.unclosedString '\'' ⟨1, 2⟩)] ∧
      Grammar.Snippet ([.word "f", .symbol .leftParen] ++ [.string "x", .symbol .rightParen])
        (.call "f" [.literal (.string "x")]) ∧
      parse "f('x" = .error (.unclosedString '\'' ⟨1, 2⟩)) := by
  have hexpr {ts : List Token} {e : Expr} (h : Grammar.Operand ts e) : Grammar.Expression ts e :=
    .chain (.tighter (.tighter (.tighter (.tighter (.tighter (.tighter (.tighter (.operand h))))))))
  have hbracket : Gives [.symbol .minus, .word "a", .symbol .leftBracket] (ofCode "-a[")
      [.ok ⟨.stop, ⟨1, 3⟩⟩] := .cons (.cons (.cons .nil))
  have hpath : Grammar.Snippet [.symbol .minus, .word "a", .symbol .leftBracket, .int 0,
      .symbol .rightBracket] (.unary .negate (.path ["a", "0"])) :=
    .intro .absent (hexpr (@Grammar.Operand.unary .negate _ _
      (.primary (.path (.bracketed (.int 0) .none))))) .absent
  have hquote : Gives [.word "f", .symbol .leftParen] (ofCode "f('x")
      [.error (.unclosedString '\'' ⟨1, 2⟩)] := .cons (.cons .nil)
  have hcall : Grammar.Snippet [.word "f", .symbol .leftParen, .string "x", .symbol .rightParen]
      (.call "f" [.literal (.string "x")]) :=
    .intro .absent (hexpr (.primary (@Grammar.Primary.call _ [.string "x"] _ (.some (.last
      (hexpr (.primary (.literal (.string "x"))))))))) .absent
  refine ⟨⟨hbracket, hpath, ?_⟩, hquote, hcall, ?_⟩
  · have hends := (parse_never_runs_out "-a[").2.2 _ _ _ _ hbracket hpath
    have hparse : parse "-a[" = .error (.noSegment .stop ⟨1, 3⟩) := by rfl
    rw [hparse] at hends
    rcases hends with ⟨heq, -⟩ | ⟨-, hrefuses, hcode⟩
    · cases heq
    · exact ⟨_, hparse, hrefuses, hcode⟩
  · have hends := (parse_never_runs_out "f('x").2.2 _ _ _ _ hquote hcall
    cases hparse : parse "f('x" with
    | ok e =>
      rw [hparse] at hends
      obtain ⟨-, pos, heq⟩ := hends
      cases heq
    | error fault =>
      rw [hparse] at hends
      rcases hends with ⟨heq, -⟩ | ⟨⟨pos, heq⟩, -⟩
      · cases heq
        rfl
      · cases heq

end PathBag.Code
