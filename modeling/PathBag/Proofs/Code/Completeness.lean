import PathBag.Proofs.Code.Soundness

/-!
# What the grammar derives, the parser reads

The parser takes tokens as long as they go on with what it reads.  So it reads what the grammar
derives if the token that comes next does not go on with it: no operator of the same level or a
tighter one, no start of a segment, no opening parenthesis, and behind a whole expression no
question mark.  A part of the parser is `Complete` for a part of the grammar up to such symbols.

There is one lemma for each part of the parser, in its order, up to `snippet_complete`.  With
`snippet_sound` this says that the parser reads exactly the snippets (`parse_eq_ok_iff`).
-/

namespace PathBag.Code

namespace Grammar

/-- The symbols that go on with a chain of the given levels or with its last operand. -/
def goesOn (levels : List (List BinaryOp)) (s : Symbol) : Bool :=
  [Symbol.dot, .leftBracket, .leftParen].contains s || levels.any (·.any (·.symbol = s))

/-- The symbols that go on with an expression. -/
def goesOnExpression (s : Symbol) : Bool := s = .question || goesOn BinaryOp.levels s

theorem goesOn_operator {levels : List (List BinaryOp)} {op : BinaryOp}
    (h : ∀ ops ∈ levels, op ∉ ops) : goesOn levels op.symbol = false := by
  have hsegment : [Symbol.dot, .leftBracket, .leftParen].contains op.symbol = false := by
    cases op <;> rfl
  simp only [goesOn, hsegment, Bool.false_or, List.any_eq_false]
  intro ops hops hany
  obtain ⟨op', hmem, heq⟩ := List.any_eq_true.1 hany
  obtain rfl := BinaryOp.symbol_injective (of_decide_eq_true heq)
  exact h ops hops hmem

/-- No symbol. -/
def never (_ : Symbol) : Bool := false

/-! ### First tokens -/

/-- Can a primary start with this token? -/
def startsPrimary : Token → Bool
  | .word _ | .string _ | .int _ | .float _ | .bool _ | .null => true
  | .symbol s => s = .leftParen || s = .leftBracket
  | .ret | .stop => false

/-- Can an operand start with this token? -/
def startsOperand (t : Token) : Bool := startsPrimary t || (Parse.unaryOp? t).isSome

theorem unaryOp?_of_startsPrimary {t : Token} (h : startsPrimary t = true) :
    Parse.unaryOp? t = none := by
  cases t with
  | symbol s => cases s <;> first | rfl | cases h
  | _ => rfl

/-- The tokens start with one of a kind. -/
def StartsWith (kind : Token → Bool) (ts : List Token) : Prop :=
  ∃ t us, ts = t :: us ∧ kind t = true

theorem StartsWith.append {kind : Token → Bool} {ts : List Token} (h : StartsWith kind ts)
    (us : List Token) : StartsWith kind (ts ++ us) := by
  obtain ⟨t, vs, rfl, ht⟩ := h
  exact ⟨t, vs ++ us, rfl, ht⟩

theorem Primary.startsWith {ts : List Token} {e : Expr} (h : Primary ts e) :
    StartsWith startsPrimary ts := by
  cases h with
  | literal ht => exact ⟨_, _, rfl, by cases ht <;> rfl⟩
  | _ => exact ⟨_, _, rfl, rfl⟩

theorem Operand.startsWith {ts : List Token} {e : Expr} (h : Operand ts e) :
    StartsWith startsOperand ts := by
  cases h with
  | @unary op ts e _ => exact ⟨_, _, rfl, by cases op <;> rfl⟩
  | primary h =>
    obtain ⟨t, us, rfl, ht⟩ := h.startsWith
    exact ⟨t, us, rfl, by simp [startsOperand, ht]⟩

theorem Chain.startsWith {levels : List (List BinaryOp)} : ∀ {ts : List Token} {e : Expr},
    Chain levels ts e → StartsWith startsOperand ts
  | _, _, .operand h => h.startsWith
  | _, _, .tighter h => h.startsWith
  | _, _, .binary _ h _ => h.startsWith.append _

theorem Expression.startsWith {ts : List Token} {e : Expr} (h : Expression ts e) :
    StartsWith startsOperand ts := by
  cases h with
  | chain h => exact h.startsWith
  | cond h _ _ => simpa using h.startsWith.append _

theorem Items.startsWith {ts : List Token} {items : List Expr} (h : Items ts items) :
    StartsWith startsOperand ts := by
  cases h with
  | last h => exact h.startsWith
  | more h _ => exact h.startsWith.append _

end Grammar

namespace Parse

open Grammar PathBag.Code.Stream

/-! ### The token ahead -/

/-- A lexeme is ahead, and it is none of the given symbols. -/
def Past (symbols : Symbol → Bool) (st : Stream) : Prop :=
  ∃ t, peek st = some t ∧ ∀ s, t = .symbol s → symbols s = false

section

variable {symbols symbols' : Symbol → Bool} {st st' : Stream} {t : Token} {ts : List Token}

theorem Past.imp (h : Past symbols st) (hle : ∀ s, symbols s = false → symbols' s = false) :
    Past symbols' st := by
  obtain ⟨t, hpeek, ht⟩ := h
  exact ⟨t, hpeek, fun s hs => hle s (ht s hs)⟩

theorem Past.ahead (h : Past symbols st) : Past never st := h.imp fun _ _ => rfl

theorem Past.length_pos (h : Past symbols st) : 0 < st.length := by
  obtain ⟨t, hpeek, -⟩ := h
  cases st with
  | nil => cases hpeek
  | cons => exact Nat.succ_pos _

theorem Past.cons (ht : ∀ s, t = .symbol s → symbols s = false) (pos : Position) (st : Stream) :
    Past symbols (.ok ⟨t, pos⟩ :: st) := ⟨t, rfl, ht⟩

theorem past_symbol {s : Symbol} (hs : symbols s = false) (pos : Position) (st : Stream) :
    Past symbols (.ok ⟨.symbol s, pos⟩ :: st) := .cons (fun _ h => by cases h; exact hs) pos st

/-- Where a stream gives tokens and a lexeme is ahead afterwards, one is ahead before. -/
theorem ahead_of_gives (h : Gives ts st st') (hst' : Past symbols st') : Past never st := by
  cases h with
  | nil => exact hst'.ahead
  | cons => exact ⟨_, rfl, fun _ _ => rfl⟩

theorem peek_of_startsWith {kind : Token → Bool} (hts : StartsWith kind ts)
    (h : Gives ts st st') : ∃ t, peek st = some t ∧ kind t = true := by
  obtain ⟨t, us, rfl, ht⟩ := hts
  cases h
  exact ⟨t, rfl, ht⟩

theorem bump_cons (pos : Position) (h : Past symbols st) :
    bump (.ok ⟨t, pos⟩ :: st) = .ok (t, st) := by
  obtain ⟨_, hpeek, -⟩ := h
  match st, hpeek with
  | .ok _ :: _, _ => rfl

theorem eat_symbol (s : Symbol) (pos : Position) (h : Past symbols st) :
    eat s (.ok ⟨.symbol s, pos⟩ :: st) = .ok (true, st) := by
  have hs : (Token.symbol s).isSymbol s = true := by simp [Token.isSymbol]
  simp only [eat, peek, hs, if_true, bump_cons pos h]
  rfl

theorem eat_other {s : Symbol} (hpeek : peek st = some t) (ht : t.isSymbol s = false) :
    eat s st = .ok (false, st) := by
  simp only [eat, hpeek, ht]
  rfl

theorem eat_past {s : Symbol} (h : Past symbols st) (hs : symbols s = true) :
    eat s st = .ok (false, st) := by
  obtain ⟨t, hpeek, ht⟩ := h
  refine eat_other hpeek (Bool.eq_false_iff.2 fun hsymbol => ?_)
  rw [ht s (Token.eq_symbol_of_isSymbol hsymbol)] at hs
  cases hs

theorem expect_symbol (s : Symbol) (pos : Position) (h : Past symbols st) :
    expect s (.ok ⟨.symbol s, pos⟩ :: st) = .ok ((), st) := by
  have hs : (Token.symbol s).isSymbol s = true := by simp [Token.isSymbol]
  rw [expect, bump_cons pos h]
  show (if (Token.symbol s).isSymbol s = true then _ else _) = _
  rw [if_pos hs]
  rfl

end

theorem andThen_of_ok {α β : Type} {x : Except Fault α} {a : α} (h : x = .ok a)
    {f : α → Except Fault β} {r : Except Fault β} (hf : f a = r) : (x >>= f) = r := by
  rw [h]
  exact hf

/-- On at most `n` lexemes the part reads what `G` derives, up to a token that is none of the
given symbols. -/
def Complete {α : Type} (n : Nat) (p : Parse α) (G : List Token → α → Prop)
    (symbols : Symbol → Bool) : Prop :=
  ∀ ⦃ts a st st'⦄, G ts a → Gives ts st st' → st.length ≤ n → Past symbols st' →
    p st = .ok (a, st')

/-- There is always a lexeme ahead. -/
theorem complete_zero {α : Type} {p : Parse α} {G : List Token → α → Prop}
    {symbols : Symbol → Bool} : Complete 0 p G symbols :=
  fun _ _ _ _ _ hts hlen hst' => absurd (ahead_of_gives hts hst').length_pos (Nat.not_lt.2 hlen)

/-! ### Operators -/

section Operators

variable {n : Nat} {operand : Parse Expr} {ops : List BinaryOp} {levels : List (List BinaryOp)}

theorem chainTail_past {st : Stream} (h : Past (goesOn (ops :: levels)) st) {fuel : Nat}
    (hfuel : 0 < fuel) (left : Expr) :
    chainTail (BinaryOp.table ops) operand fuel left st = .ok (left, st) := by
  obtain ⟨fuel, rfl⟩ := Nat.exists_eq_succ_of_ne_zero (Nat.ne_zero_of_lt hfuel)
  obtain ⟨t, hpeek, ht⟩ := h
  unfold chainTail
  split
  · next s hs =>
    split
    · next op hlookup =>
      obtain ⟨hmem, rfl⟩ := BinaryOp.lookup_table.1 hlookup
      have hgoes := ht _ (Option.some.inj (hpeek.symm.trans hs))
      simp only [goesOn, List.any_cons, Bool.or_eq_false_iff, List.any_eq_false] at hgoes
      simpa using hgoes.2.1 op hmem
    · rfl
  · rfl

theorem chainTail_operator {op : BinaryOp} (hmem : op ∈ ops) (pos : Position) {st st' : Stream}
    (hst : Past never st) (fuel : Nat) (left : Expr) {right : Expr}
    (hright : operand st = .ok (right, st')) :
    chainTail (BinaryOp.table ops) operand (fuel + 1) left (.ok ⟨.symbol op.symbol, pos⟩ :: st) =
      chainTail (BinaryOp.table ops) operand fuel (.binary op left right) st' := by
  have hlookup : (BinaryOp.table ops).lookup op.symbol = some op :=
    BinaryOp.lookup_table.2 ⟨hmem, rfl⟩
  simp only [chainTail, peek, hlookup, bump_cons pos hst]
  show (operand st >>= _) = _
  rw [hright]
  rfl

/-- A chain that is derived is read up to its last operand, with rounds left for all that
follows. -/
theorem chain_eq_chainTail (hop : Complete n operand (Chain levels) (goesOn levels))
    (hops : ∀ op ∈ ops, goesOn levels op.symbol = false) :
    ∀ {ts : List Token} {e : Expr}, Chain (ops :: levels) ts e → ∀ {st st' : Stream},
      Gives ts st st' → st.length ≤ n → Past (goesOn levels) st' →
      ∃ fuel, st'.length ≤ fuel ∧
        chain (BinaryOp.table ops) operand st = chainTail (BinaryOp.table ops) operand fuel e st'
  | _, _, .tighter h, st, st', hts, hlen, hst' => by
    refine ⟨st'.length, Nat.le_refl _, ?_⟩
    rw [chain, hop h hts hlen hst']
    rfl
  | _, _, .binary hmem hleft hright, st, st', hts, hlen, hst' => by
    obtain ⟨_, hts, hmore⟩ := gives_append_iff.1 hts
    obtain ⟨pos, rest, rfl, hus⟩ := gives_cons_iff.1 hmore
    have hlen₁ := hts.length_eq
    rw [List.length_cons] at hlen₁
    -- the operator is of this level, so it does not go on with the chain to its left
    obtain ⟨fuel, hfuel, heq⟩ := chain_eq_chainTail hop hops hleft hts hlen
      (past_symbol (hops _ hmem) pos rest)
    rw [List.length_cons] at hfuel
    obtain ⟨fuel, rfl⟩ := Nat.exists_eq_succ_of_ne_zero (n := fuel) (by omega)
    have hlen₂ := hus.length_eq
    refine ⟨fuel, by omega, ?_⟩
    rw [heq, chainTail_operator hmem pos (ahead_of_gives hus hst') fuel _
      (hop hright hus (by omega) hst')]

theorem chain_complete (hop : Complete n operand (Chain levels) (goesOn levels))
    (hops : ∀ op ∈ ops, goesOn levels op.symbol = false) :
    Complete n (chain (BinaryOp.table ops) operand) (Chain (ops :: levels))
      (goesOn (ops :: levels)) := by
  intro ts e st st' h hts hlen hst'
  have htighter : Past (goesOn levels) st' := hst'.imp fun s hs => by
    simp only [goesOn, List.any_cons, Bool.or_eq_false_iff] at hs ⊢
    exact ⟨hs.1, hs.2.2⟩
  obtain ⟨fuel, hfuel, heq⟩ := chain_eq_chainTail hop hops h hts hlen htighter
  rw [heq, chainTail_past hst' (Nat.lt_of_lt_of_le hst'.length_pos hfuel)]

theorem chains_complete (hop : Complete n operand Operand (goesOn [])) :
    ∀ levels : List (List BinaryOp),
      levels.Pairwise (fun ops ops' => ∀ op ∈ ops, op ∉ ops') →
      Complete n (chains operand (levels.map BinaryOp.table)) (Chain levels) (goesOn levels)
  | [], _ => fun _ _ _ _ h hts hlen hst' => by
    cases h with
    | operand h => exact hop h hts hlen hst'
  | _ :: _, hlevels => by
    obtain ⟨hops, hlevels⟩ := List.pairwise_cons.1 hlevels
    exact chain_complete (chains_complete hop _ hlevels) fun op hmem =>
      goesOn_operator fun ops' hops' => hops ops' hops' op hmem

theorem unary_complete {primary : Parse Expr} (hp : Complete n primary Primary (goesOn []))
    {fuel : Nat} (hfuel : fuel ≤ n) : Complete fuel (unary primary fuel) Operand (goesOn []) := by
  induction fuel with
  | zero => exact complete_zero
  | succ fuel ih =>
    intro ts e st st' h hts hlen hst'
    unfold unary
    cases h with
    | @unary op _ e he =>
      obtain ⟨pos, rest, rfl, hrest⟩ := gives_cons_iff.1 hts
      rw [List.length_cons] at hlen
      have hop : (peek (.ok ⟨.symbol op.symbol, pos⟩ :: rest)).bind unaryOp? = some op :=
        unaryOp?_eq_some_iff.2 rfl
      rw [hop]
      refine andThen_of_ok (bump_cons pos (ahead_of_gives hrest hst')) ?_
      exact andThen_of_ok (ih (by omega) he hrest (by omega) hst') rfl
    | primary he =>
      obtain ⟨t, hpeek, ht⟩ := peek_of_startsWith he.startsWith hts
      have hop : (peek st).bind unaryOp? = none := by
        rw [hpeek]
        exact unaryOp?_of_startsPrimary ht
      rw [hop]
      exact hp he hts (by omega) hst'

end Operators

/-! ### Primaries -/

theorem segment_complete {t : Token} {name : String} (h : Segment t name) (pos : Position)
    {symbols : Symbol → Bool} {st : Stream} (hst : Past symbols st) :
    segment (.ok ⟨t, pos⟩ :: st) = .ok (name, st) := by
  refine andThen_of_ok (bump_cons pos hst) ?_
  dsimp only
  rw [segment?_eq_some_iff.2 h]
  rfl

theorem segments_complete (fuel : Nat) :
    Complete fuel (segments fuel) Segments (goesOn []) := by
  induction fuel with
  | zero => exact complete_zero
  | succ fuel ih =>
    intro ts names st st' h hts hlen hst'
    cases h with
    | none =>
      cases hts
      obtain ⟨t, hpeek, ht⟩ := hst'
      unfold segments
      split
      · next hdot => cases ht .dot (Option.some.inj (hpeek.symm.trans hdot))
      · next hbracket => cases ht .leftBracket (Option.some.inj (hpeek.symm.trans hbracket))
      · rfl
    | dotted hname hnames =>
      obtain ⟨pos₁, st₁, rfl, hts₁⟩ := gives_cons_iff.1 hts
      obtain ⟨pos₂, st₂, rfl, hts₂⟩ := gives_cons_iff.1 hts₁
      rw [List.length_cons, List.length_cons] at hlen
      refine andThen_of_ok (bump_cons pos₁ (ahead_of_gives hts₁ hst')) ?_
      refine andThen_of_ok (segment_complete hname pos₂ (ahead_of_gives hts₂ hst')) ?_
      exact andThen_of_ok (ih hnames hts₂ (by omega) hst') rfl
    | bracketed hname hnames =>
      obtain ⟨pos₁, st₁, rfl, hts₁⟩ := gives_cons_iff.1 hts
      obtain ⟨pos₂, st₂, rfl, hts₂⟩ := gives_cons_iff.1 hts₁
      obtain ⟨pos₃, st₃, rfl, hts₃⟩ := gives_cons_iff.1 hts₂
      rw [List.length_cons, List.length_cons, List.length_cons] at hlen
      refine andThen_of_ok (bump_cons pos₁ (ahead_of_gives hts₁ hst')) ?_
      refine andThen_of_ok (segment_complete hname pos₂ (ahead_of_gives hts₂ hst')) ?_
      refine andThen_of_ok (expect_symbol .rightBracket pos₃ (ahead_of_gives hts₃ hst')) ?_
      exact andThen_of_ok (ih hnames hts₃ (by omega) hst') rfl

/-- No parenthesis comes behind the first name of a path. -/
theorem eat_leftParen_of_segments {ts : List Token} {names : Path} {st st' : Stream}
    (h : Segments ts names) (hts : Gives ts st st') (hst' : Past (goesOn []) st') :
    eat .leftParen st = .ok (false, st) := by
  cases h with
  | none =>
    cases hts
    exact eat_past hst' rfl
  | dotted | bracketed =>
    cases hts
    exact eat_other rfl rfl

section Primaries

variable {n : Nat} {inner : Parse Expr} (hin : Complete n inner Expression goesOnExpression)
  {close : Symbol} (hclose : close = .rightParen ∨ close = .rightBracket)

include hin hclose

theorem argumentsTail_complete {fuel : Nat} (hfuel : fuel ≤ n) :
    Complete fuel (argumentsTail inner close fuel)
      (fun ts items => ∃ us, Items us items ∧ ts = us ++ [.symbol close]) never := by
  induction fuel with
  | zero => exact complete_zero
  | succ fuel ih =>
    rintro _ items st st' ⟨ts, h, rfl⟩ hts hlen hst'
    obtain ⟨mid, hts, hend⟩ := gives_append_iff.1 hts
    cases h with
    | last he =>
      obtain ⟨pos, rfl⟩ := gives_singleton_iff.1 hend
      have hmid : Past goesOnExpression (.ok ⟨.symbol close, pos⟩ :: st') :=
        past_symbol (by rcases hclose with rfl | rfl <;> rfl) pos st'
      have hcomma : (Token.symbol close).isSymbol .comma = false := by
        rcases hclose with rfl | rfl <;> rfl
      refine andThen_of_ok (hin he hts (by omega) hmid) ?_
      refine andThen_of_ok (eat_other rfl hcomma) ?_
      exact andThen_of_ok (expect_symbol close pos hst') rfl
    | more he hitems =>
      obtain ⟨_, hts, hmore⟩ := gives_append_iff.1 hts
      obtain ⟨pos, rest, rfl, hus⟩ := gives_cons_iff.1 hmore
      have hlen₁ := hts.length_eq
      rw [List.length_cons] at hlen₁
      have hrest : Gives _ rest st' := hus.append hend
      refine andThen_of_ok (hin he hts (by omega) (past_symbol rfl pos rest)) ?_
      refine andThen_of_ok (eat_symbol .comma pos (ahead_of_gives hrest hst')) ?_
      exact andThen_of_ok (ih (by omega) ⟨_, hitems, rfl⟩ hrest (by omega) hst') rfl

theorem arguments_complete :
    Complete n (arguments inner close)
      (fun ts items => ∃ us, Arguments us items ∧ ts = us ++ [.symbol close]) never := by
  rintro _ items st st' ⟨ts, h, rfl⟩ hts hlen hst'
  cases h with
  | none =>
    obtain ⟨pos, rfl⟩ := gives_singleton_iff.1 hts
    exact andThen_of_ok (eat_symbol close pos hst') rfl
  | some hitems =>
    obtain ⟨t, hpeek, ht⟩ := peek_of_startsWith (hitems.startsWith.append _) hts
    have hopen : t.isSymbol close = false := by
      refine Bool.eq_false_iff.2 fun hsymbol => ?_
      obtain rfl := Token.eq_symbol_of_isSymbol hsymbol
      rcases hclose with rfl | rfl <;> cases ht
    refine andThen_of_ok (eat_other hpeek hopen) ?_
    exact argumentsTail_complete hin hclose hlen ⟨ts, hitems, rfl⟩ hts (Nat.le_refl _) hst'

omit hclose

theorem primary_complete : Complete (n + 1) (primary inner) Primary (goesOn []) := by
  intro ts e st st' h hts hlen hst'
  unfold primary
  cases h with
  | literal hv =>
    obtain ⟨pos, rfl⟩ := gives_singleton_iff.1 hts
    refine andThen_of_ok (bump_cons pos hst') ?_
    cases hv <;> rfl
  | parens he =>
    obtain ⟨pos₁, st₁, rfl, hts₁⟩ := gives_cons_iff.1 hts
    obtain ⟨_, he', hend⟩ := gives_append_iff.1 hts₁
    obtain ⟨pos₂, rfl⟩ := gives_singleton_iff.1 hend
    rw [List.length_cons] at hlen
    refine andThen_of_ok (bump_cons pos₁ (ahead_of_gives hts₁ hst')) ?_
    refine andThen_of_ok (hin he he' (by omega) (past_symbol rfl pos₂ st')) ?_
    exact andThen_of_ok (expect_symbol .rightParen pos₂ hst') rfl
  | list hitems =>
    obtain ⟨pos, rest, rfl, hrest⟩ := gives_cons_iff.1 hts
    rw [List.length_cons] at hlen
    refine andThen_of_ok (bump_cons pos (ahead_of_gives hrest hst')) ?_
    exact andThen_of_ok
      (arguments_complete hin (.inr rfl) ⟨_, hitems, rfl⟩ hrest (by omega) hst'.ahead) rfl
  | call hitems =>
    obtain ⟨pos₁, st₁, rfl, hts₁⟩ := gives_cons_iff.1 hts
    obtain ⟨pos₂, st₂, rfl, hts₂⟩ := gives_cons_iff.1 hts₁
    rw [List.length_cons, List.length_cons] at hlen
    refine andThen_of_ok (bump_cons pos₁ (ahead_of_gives hts₁ hst')) ?_
    refine andThen_of_ok (eat_symbol .leftParen pos₂ (ahead_of_gives hts₂ hst')) ?_
    exact andThen_of_ok
      (arguments_complete hin (.inl rfl) ⟨_, hitems, rfl⟩ hts₂ (by omega) hst'.ahead) rfl
  | path hnames =>
    obtain ⟨pos, rest, rfl, hrest⟩ := gives_cons_iff.1 hts
    refine andThen_of_ok (bump_cons pos (ahead_of_gives hrest hst')) ?_
    refine andThen_of_ok (eat_leftParen_of_segments hnames hrest hst') ?_
    exact andThen_of_ok (segments_complete _ hnames hrest (Nat.le_refl _) hst') rfl

/-! ### Expressions and snippets -/

theorem exprWith_complete : Complete (n + 1) (exprWith inner) Expression goesOnExpression := by
  have hunary : Complete (n + 1) (fun st => unary (primary inner) st.length st) Operand
      (goesOn []) := fun _ _ _ _ h hts hlen hst' =>
    unary_complete (primary_complete hin) hlen h hts (Nat.le_refl _) hst'
  have hchains : Complete (n + 1)
      (chains (fun st => unary (primary inner) st.length st) (BinaryOp.levels.map BinaryOp.table))
      (Chain BinaryOp.levels) (goesOn BinaryOp.levels) :=
    chains_complete hunary BinaryOp.levels (by decide)
  intro ts e st st' h hts hlen hst'
  unfold exprWith
  rw [levels_eq]
  cases h with
  | chain hchain =>
    have hpast : Past (goesOn BinaryOp.levels) st' := hst'.imp fun s hs => by
      simp only [goesOnExpression, Bool.or_eq_false_iff] at hs
      exact hs.2
    refine andThen_of_ok (hchains hchain hts hlen hpast) ?_
    exact andThen_of_ok (eat_past hst' rfl) rfl
  | cond hcondition hyes hno =>
    obtain ⟨_, hfirst, hlast⟩ := gives_append_iff.1 hts
    obtain ⟨_, hts, hmiddle⟩ := gives_append_iff.1 hfirst
    obtain ⟨pos₁, st₁, rfl, hus⟩ := gives_cons_iff.1 hmiddle
    obtain ⟨pos₂, st₂, rfl, hvs⟩ := gives_cons_iff.1 hlast
    -- the question mark ends the condition, and the colon the first branch
    have hcolon : Past goesOnExpression (.ok ⟨.symbol .colon, pos₂⟩ :: st₂) :=
      past_symbol rfl pos₂ st₂
    have hlen₁ := hts.length_eq
    have hlen₂ := hus.length_eq
    rw [List.length_cons] at hlen₁ hlen₂
    refine andThen_of_ok (hchains hcondition hts hlen (past_symbol rfl pos₁ st₁)) ?_
    refine andThen_of_ok (eat_symbol .question pos₁ (ahead_of_gives hus hcolon)) ?_
    refine andThen_of_ok (hin hyes hus (by omega) hcolon) ?_
    refine andThen_of_ok (expect_symbol .colon pos₂ (ahead_of_gives hvs hst')) ?_
    exact andThen_of_ok (hin hno hvs (by omega) hst') rfl

end Primaries

theorem expr_complete (fuel : Nat) :
    Complete fuel (expr fuel) Expression goesOnExpression := by
  induction fuel with
  | zero => exact complete_zero
  | succ fuel ih => exact exprWith_complete ih

/-- What ends a snippet, the end token included, does not go on with the expression. -/
theorem past_of_optional {after : List Token} (h : Optional (.symbol .semicolon) after)
    {pos : Position} {st : Stream} (hst : Gives after st [.ok ⟨.stop, pos⟩]) :
    Past goesOnExpression st := by
  cases h with
  | absent =>
    cases hst
    exact .cons (fun _ h => by cases h) pos []
  | present =>
    obtain ⟨pos', rfl⟩ := gives_singleton_iff.1 hst
    exact past_symbol rfl pos' _

/-- A snippet that is derived by all tokens up to the end token is read. -/
theorem snippet_complete {ts : List Token} {e : Expr} (h : Snippet ts e) {st : Stream}
    {pos : Position} (hts : Gives ts st [.ok ⟨.stop, pos⟩]) : snippet st = .ok e := by
  have hstop : Past never [.ok ⟨.stop, pos⟩] := .cons (fun _ _ => rfl) pos []
  obtain @⟨before, ts, after, _, hbefore, he, hafter⟩ := h
  obtain ⟨st₂, hfirst, hend⟩ := gives_append_iff.1 hts
  obtain ⟨st₁, hret, hread⟩ := gives_append_iff.1 hfirst
  have hst₂ := past_of_optional hafter hend
  have hexpr : expr st₁.length st₁ = .ok (e, st₂) :=
    expr_complete _ he hread (Nat.le_refl _) hst₂
  unfold snippet
  extract_lets rest
  have hrest (t : Token) : rest (t, st₁) = .ok e := by
    refine andThen_of_ok hexpr ?_
    cases hafter with
    | absent =>
      cases hend
      exact andThen_of_ok (eat_other rfl rfl) rfl
    | present =>
      obtain ⟨pos', rfl⟩ := gives_singleton_iff.1 hend
      exact andThen_of_ok (eat_symbol .semicolon pos' hstop) rfl
  cases hbefore with
  | absent =>
    cases hret
    obtain ⟨t, hpeek, ht⟩ := peek_of_startsWith he.startsWith hread
    split
    · next hreturn =>
      obtain rfl : t = .ret := Option.some.inj (hpeek.symm.trans hreturn)
      cases ht
    · exact hrest .stop
  | present =>
    obtain ⟨pos', rfl⟩ := gives_singleton_iff.1 hret
    exact andThen_of_ok (bump_cons pos' (ahead_of_gives hread hst₂)) (hrest .ret)

end Parse

/-! ### Texts -/

open PathBag.Code.Stream

theorem parse_eq_snippet {code : String} (h : Ready (ofCode code)) :
    parse code = Parse.snippet (ofCode code) := by
  unfold parse
  split
  · next heq =>
    rw [heq] at h
    cases h
  · rfl

/-- A list of tokens, with the end token behind it, as a stream. -/
theorem exists_gives (ts : List Token) (pos : Position) :
    ∃ st, Gives ts st [.ok ⟨.stop, pos⟩] := by
  induction ts with
  | nil => exact ⟨_, .nil⟩
  | cons t ts ih =>
    obtain ⟨st, hst⟩ := ih
    exact ⟨.ok ⟨t, pos⟩ :: st, .cons hst⟩

/-- Two trees of the same tokens are both what the parser reads from these tokens. -/
theorem Grammar.Snippet.tree_unique {ts : List Token} {e e' : Expr} (h : Snippet ts e)
    (h' : Snippet ts e') : e = e' := by
  obtain ⟨st, hst⟩ := exists_gives ts .origin
  have he : Parse.snippet st = .ok e := Parse.snippet_complete h hst
  have he' : Parse.snippet st = .ok e' := Parse.snippet_complete h' hst
  exact Except.ok.inj (he.symm.trans he')

/-- **The parser reads its grammar.**  It reads a text exactly if all of
the text is cut into the tokens of a snippet, and it reads the tree of that snippet.  The tokens of
a snippet have one tree. -/
theorem parse_eq_ok_iff (code : String) :
    (∀ e, parse code = .ok e ↔ ∃ ts, (Cursor.start code).Lexes ts ∧ Grammar.Snippet ts e) ∧
      ∀ ts e e', Grammar.Snippet ts e → Grammar.Snippet ts e' → e = e' := by
  refine ⟨fun e => ⟨fun h => ?_, ?_⟩, fun ts e e' he he' => he.tree_unique he'⟩
  · rcases ofCode_ready code with ⟨fault, -, hfault⟩ | hready
    · rw [parse, hfault] at h
      cases h
    · have hsound := Parse.snippet_sound hready
      rw [← parse_eq_snippet hready, h] at hsound
      obtain ⟨ts, pos, hsnippet, hgives⟩ := hsound
      exact ⟨ts, lexes_iff_gives.2 ⟨pos, hgives⟩, hsnippet⟩
  · rintro ⟨ts, hlexes, hsnippet⟩
    obtain ⟨pos, hgives⟩ := lexes_iff_gives.1 hlexes
    rcases ofCode_ready code with ⟨fault, -, hfault⟩ | hready
    · rw [hfault] at hgives
      cases hgives
    · rw [parse_eq_snippet hready]
      exact Parse.snippet_complete hsnippet hgives

/-- Operators of a level group to the left, and an operator in front takes a whole path. -/
theorem parse_eq_ok_iff_minus :
    parse "a - 4 - -x[0].y;" = .ok (.binary .sub (.binary .sub (.path ["a"]) (.literal (.int 4)))
        (.unary .negate (.path ["x", "0", "y"]))) ∧
      ∀ e, Grammar.Snippet [.word "a", .symbol .minus, .int 4] e →
        e = .binary .sub (.path ["a"]) (.literal (.int 4)) := by
  have hcut : (Cursor.start "a - 4 - -x[0].y;").Lexes [.word "a", .symbol .minus, .int 4,
      .symbol .minus, .symbol .minus, .word "x", .symbol .leftBracket, .int 0,
      .symbol .rightBracket, .symbol .dot, .word "y", .symbol .semicolon] := by
    repeat' first | exact .stop rfl | refine .token rfl rfl ?_
  have ha : Grammar.Chain (BinaryOp.levels.drop 6) [.word "a"] (.path ["a"]) :=
    .tighter (.operand (.primary (.path .none)))
  have hfour : Grammar.Chain (BinaryOp.levels.drop 6) [.int 4] (.literal (.int 4)) :=
    .tighter (.operand (.primary (.literal (.int 4))))
  have hx : Grammar.Chain (BinaryOp.levels.drop 6) [.symbol .minus, .word "x",
      .symbol .leftBracket, .int 0, .symbol .rightBracket, .symbol .dot, .word "y"]
      (.unary .negate (.path ["x", "0", "y"])) :=
    .tighter (.operand (@Grammar.Operand.unary .negate _ _
      (.primary (.path (.bracketed (.int 0) (.dotted (.word "y") .none))))))
  have hsub : Grammar.Chain (BinaryOp.levels.drop 5) [.word "a", .symbol .minus, .int 4]
      (.binary .sub (.path ["a"]) (.literal (.int 4))) :=
    @Grammar.Chain.binary _ _ .sub [.word "a"] _ _ _ (by decide) (.tighter ha) hfour
  have hsub' := @Grammar.Chain.binary _ _ .sub _ _ _ _ (by decide) hsub hx
  have hexpr {ts : List Token} {e : Expr} (h : Grammar.Chain (BinaryOp.levels.drop 5) ts e) :
      Grammar.Expression ts e := .chain (.tighter (.tighter (.tighter (.tighter (.tighter h)))))
  refine ⟨((parse_eq_ok_iff _).1 _).2 ⟨_, hcut, ?_⟩, fun e he => ?_⟩
  · exact .intro .absent (hexpr hsub') .present
  · exact (parse_eq_ok_iff "").2 _ _ _ he (.intro .absent (hexpr hsub) .absent)

end PathBag.Code
