import PathBag.Code.Parser
import PathBag.Proofs.Code.Grammar
import PathBag.Proofs.Code.Streams
import PathBag.Proofs.Eval.Outcome

/-!
# What the parser reads, the grammar derives

A part of the parser is `Sound` for a part of the grammar, on streams of a bounded length, when it
takes tokens from the stream that this part of the grammar derives with the result, or stops at a
fault.  The fault is never that of running out of tokens: the parser's bounds are wide enough,
since what is left gets shorter with every token that is taken.

There is one lemma for each part of the parser, in its order, up to `snippet_sound`.
-/

namespace PathBag

namespace Code

theorem Token.eq_symbol_of_isSymbol {t : Token} {s : Symbol} (h : t.isSymbol s = true) :
    t = .symbol s := by
  cases t <;> simp_all [Token.isSymbol]

/-! ### The tables of the operators -/

namespace BinaryOp

theorem symbol_injective {op op' : BinaryOp} (h : op.symbol = op'.symbol) : op = op' := by
  have hinv (o : BinaryOp) :
      (levels.flatten.map fun o => (o.symbol, o)).lookup o.symbol = some o := by
    cases o <;> rfl
  have hop := hinv op
  rw [h, hinv op'] at hop
  exact (Option.some.inj hop).symm

/-- The symbols of operators, each with its operator. -/
def table (ops : List BinaryOp) : List (Symbol × BinaryOp) := ops.map fun op => (op.symbol, op)

theorem lookup_table {ops : List BinaryOp} {s : Symbol} {op : BinaryOp} :
    (table ops).lookup s = some op ↔ op ∈ ops ∧ op.symbol = s := by
  induction ops with
  | nil => simp [table]
  | cons o ops ih =>
    have ih' : List.lookup s (ops.map fun op => (op.symbol, op)) = some op ↔
        op ∈ ops ∧ op.symbol = s := ih
    by_cases hs : o.symbol = s
    · subst hs
      simp only [table, List.map_cons, List.lookup_cons_self, Option.some.injEq, List.mem_cons]
      constructor
      · rintro rfl
        exact ⟨.inl rfl, rfl⟩
      · rintro ⟨-, h⟩
        exact symbol_injective h.symm
    · have hne : (s == o.symbol) = false := by simpa using Ne.symm hs
      simp only [table, List.map_cons, List.lookup_cons, hne, ih', List.mem_cons]
      grind

end BinaryOp

namespace Parse

open Grammar PathBag.Code.Stream

theorem levels_eq : levels = BinaryOp.levels.map BinaryOp.table := rfl

theorem unaryOp?_eq_some_iff {t : Token} {op : UnaryOp} :
    unaryOp? t = some op ↔ t = .symbol op.symbol := by
  constructor
  · intro h
    unfold unaryOp? at h
    split at h <;> cases h <;> rfl
  · rintro rfl
    cases op <;> rfl

theorem segment?_eq_some_iff {t : Token} {name : String} :
    segment? t = some name ↔ Segment t name := by
  constructor
  · intro h
    unfold segment? at h
    split at h <;> cases h
    · exact .word _
    · exact .string _
    · exact .int _
    · next b => cases b <;> constructor
    · exact .null
    · exact .ret
  · intro h
    cases h <;> rfl

/-! ### Sound parts -/

section

variable {α β : Type}

/-- What is read off a stream is derived, and a lexeme is ahead in what is left. -/
def Reads (G : List Token → α → Prop) (st : Stream) (r : α × Stream) : Prop :=
  ∃ ts, G ts r.1 ∧ Gives ts st r.2 ∧ Ready r.2

/-- On at most `n` lexemes the part reads what `G` derives, and does not run out of tokens. -/
def Sound (n : Nat) (p : Parse α) (G : List Token → α → Prop) : Prop :=
  ∀ st, Ready st → st.length ≤ n → EndsIn Fault.InBounds (Reads G st) (p st)

variable {n : Nat} {G G' : List Token → α → Prop} {Q : β → Prop} {st : Stream}

/-- There is always a lexeme ahead. -/
theorem sound_zero {p : Parse α} : Sound 0 p G :=
  fun _ hst hlen => absurd hst.length_pos (Nat.not_lt.2 hlen)

theorem Sound.imp {p : Parse α} (hp : Sound n p G) (h : ∀ ts a, G ts a → G' ts a) :
    Sound n p G' :=
  fun st hst hn => (hp st hst hn).imp fun _ ⟨ts, hG, hts⟩ => ⟨ts, h ts _ hG, hts⟩

/-- A sound part, and then the rest of the work on what it leaves. -/
theorem Sound.andThen {p : Parse α} (hp : Sound n p G) (hst : Ready st) (hn : st.length ≤ n)
    {f : α × Stream → Except Fault β}
    (hf : ∀ a ts st', G ts a → Gives ts st st' → Ready st' → EndsIn Fault.InBounds Q (f (a, st'))) :
    EndsIn Fault.InBounds Q (p st >>= f) :=
  (hp st hst hn).bind fun ⟨a, st'⟩ ⟨ts, hG, hgives, hready⟩ => hf a ts st' hG hgives hready

/-- A part that is sound on streams of every length, and then the rest of the work. -/
theorem andThen_of_sound {p : Parse α} (hp : ∀ n, Sound n p G) (hst : Ready st)
    {f : α × Stream → Except Fault β}
    (hf : ∀ a ts st', G ts a → Gives ts st st' → Ready st' → EndsIn Fault.InBounds Q (f (a, st'))) :
    EndsIn Fault.InBounds Q (p st >>= f) := (hp st.length).andThen hst (Nat.le_refl _) hf

/-- What is read further on is read after what was taken before. -/
theorem Reads.prepend {ts : List Token} {st' : Stream} (hts : Gives ts st st')
    (h : ∀ us a, G us a → G' (ts ++ us) a) {r : α × Stream} (hr : Reads G st' r) :
    Reads G' st r := by
  obtain ⟨us, hG, hus, hready⟩ := hr
  exact ⟨ts ++ us, h us _ hG, hts.append hus, hready⟩

/-- The token ahead is taken; the end token stays. -/
theorem bump_andThen (hst : Ready st) {f : Token × Stream → Except Fault β}
    (hf : ∀ t st', peek st = some t → (t.isStop = false → Gives [t] st st' ∧ Ready st') →
      EndsIn Fault.InBounds Q (f (t, st'))) : EndsIn Fault.InBounds Q (bump st >>= f) := by
  cases hst with
  | stop => exact hf .stop _ rfl fun h => by cases h
  | fault _ hfault => exact hfault
  | @token t pos st ht hst =>
    have hnext : bump (.ok ⟨t, pos⟩ :: st) = .ok (t, st) := by cases hst <;> rfl
    rw [hnext]
    exact hf t st rfl fun _ => ⟨.cons .nil, hst⟩

/-- Nothing comes after the end token. -/
theorem eq_stop_of_peek (hst : Ready st) (hpeek : peek st = some .stop) :
    ∃ pos, st = [.ok ⟨.stop, pos⟩] := by
  cases hst with
  | stop => exact ⟨_, rfl⟩
  | fault ht _ | token ht _ =>
    cases hpeek
    cases ht

end

theorem eat_sound (s : Symbol) (n : Nat) :
    Sound n (eat s) fun ts taken => ts = if taken then [.symbol s] else [] := by
  intro st hst _
  unfold eat
  split
  · next token hpeek =>
    split
    · next hs =>
      obtain rfl := Token.eq_symbol_of_isSymbol hs
      refine bump_andThen hst fun t st' ht hnext => ?_
      obtain rfl : Token.symbol s = t := Option.some.inj (hpeek.symm.trans ht)
      obtain ⟨hgives, hready⟩ := hnext rfl
      exact ⟨_, rfl, hgives, hready⟩
    · exact ⟨[], rfl, .nil, hst⟩
  · exact ⟨[], rfl, .nil, hst⟩

theorem expect_sound (s : Symbol) (n : Nat) :
    Sound n (expect s) fun ts _ => ts = [.symbol s] := by
  intro st hst _
  unfold expect
  refine bump_andThen hst fun t st' _ hnext => ?_
  dsimp only
  split
  · next hs =>
    obtain rfl := Token.eq_symbol_of_isSymbol hs
    obtain ⟨hgives, hready⟩ := hnext rfl
    exact ⟨_, rfl, hgives, hready⟩
  · exact fun _ => by simp

/-! ### Operators -/

section Operators

variable {n : Nat} {operand : Parse Expr} {ops : List BinaryOp} {levels : List (List BinaryOp)}

theorem chainTail_sound (hop : Sound n operand (Chain levels)) {fuel : Nat} (hfuel : fuel ≤ n)
    (left : Expr) :
    Sound fuel (chainTail (BinaryOp.table ops) operand fuel left) fun us e =>
      ∀ ts, Chain (ops :: levels) ts left → Chain (ops :: levels) (ts ++ us) e := by
  induction fuel generalizing left with
  | zero => exact sound_zero
  | succ fuel ih =>
    intro st hst hlen
    have hdone : Reads (fun us e => ∀ ts, Chain (ops :: levels) ts left →
        Chain (ops :: levels) (ts ++ us) e) st (left, st) :=
      ⟨[], fun ts h => by rwa [List.append_nil], .nil, hst⟩
    unfold chainTail
    split
    · next s hpeek =>
      split
      · next op hlookup =>
        obtain ⟨hmem, rfl⟩ := BinaryOp.lookup_table.1 hlookup
        refine bump_andThen hst fun t st₁ ht hnext => ?_
        obtain rfl : Token.symbol op.symbol = t := Option.some.inj (hpeek.symm.trans ht)
        obtain ⟨hgives, hst₁⟩ := hnext rfl
        have hlen₁ := hgives.length_eq
        rw [List.length_singleton] at hlen₁
        refine hop.andThen hst₁ (by omega) fun right us st₂ hright hus hst₂ => ?_
        have hlen₂ := hus.length_eq
        refine (ih (by omega) (.binary op left right) st₂ hst₂ (by omega)).imp fun r hr => ?_
        refine hr.prepend (hgives.append hus) fun vs e he ts hts => ?_
        simpa using he _ (.binary hmem hts hright)
      · exact hdone
    · exact hdone

theorem chain_sound (hop : Sound n operand (Chain levels)) :
    Sound n (chain (BinaryOp.table ops) operand) (Chain (ops :: levels)) := by
  intro st hst hlen
  refine hop.andThen hst hlen fun left ts st₁ hleft hts hst₁ => ?_
  have hlen₁ := hts.length_eq
  refine (chainTail_sound hop (by omega) left st₁ hst₁ (Nat.le_refl _)).imp fun r hr => ?_
  exact hr.prepend hts fun us e he => he ts (.tighter hleft)

theorem chains_sound (hop : Sound n operand Operand) (levels : List (List BinaryOp)) :
    Sound n (chains operand (levels.map BinaryOp.table)) (Chain levels) := by
  induction levels with
  | nil => exact hop.imp fun _ _ h => .operand h
  | cons ops levels ih => exact chain_sound ih

theorem unary_sound {primary : Parse Expr} (hp : Sound n primary Primary) {fuel : Nat}
    (hfuel : fuel ≤ n) : Sound fuel (unary primary fuel) Operand := by
  induction fuel with
  | zero => exact sound_zero
  | succ fuel ih =>
    intro st hst hlen
    unfold unary
    split
    · next op hop =>
      obtain ⟨token, hpeek, hop⟩ := Option.bind_eq_some_iff.1 hop
      obtain rfl := unaryOp?_eq_some_iff.1 hop
      refine bump_andThen hst fun t st₁ ht hnext => ?_
      obtain rfl : Token.symbol op.symbol = t := Option.some.inj (hpeek.symm.trans ht)
      obtain ⟨hgives, hst₁⟩ := hnext rfl
      have hlen₁ := hgives.length_eq
      rw [List.length_singleton] at hlen₁
      refine (ih (by omega)).andThen hst₁ (by omega) fun e ts st₂ he hts hst₂ => ?_
      exact ⟨_, .unary he, hgives.append hts, hst₂⟩
    · exact (hp st hst (by omega)).imp fun _ hr => hr.prepend .nil fun _ _ h => .primary h

end Operators

/-! ### Primaries -/

section Primaries

variable {n : Nat} {inner : Parse Expr} (hin : Sound n inner Expression)

include hin

theorem argumentsTail_sound (close : Symbol) {fuel : Nat} (hfuel : fuel ≤ n) :
    Sound fuel (argumentsTail inner close fuel) fun ts items =>
      ∃ us, Items us items ∧ ts = us ++ [.symbol close] := by
  induction fuel with
  | zero => exact sound_zero
  | succ fuel ih =>
    intro st hst hlen
    unfold argumentsTail
    refine hin.andThen hst (by omega) fun item ts st₁ hitem hts hst₁ => ?_
    refine andThen_of_sound (eat_sound .comma) hst₁ fun more us st₂ hmore hus hst₂ => ?_
    have hlen₁ := hts.length_eq
    have hlen₂ := hus.length_eq
    subst hmore
    cases more with
    | true =>
      rw [if_pos rfl, List.length_singleton] at hlen₂
      refine (ih (by omega)).andThen hst₂ (by omega) fun items vs st₃ hitems hvs hst₃ => ?_
      obtain ⟨ws, hws, rfl⟩ := hitems
      exact ⟨_, ⟨_, .more hitem hws, by simp⟩, hts.append (hus.append hvs), hst₃⟩
    | false =>
      refine andThen_of_sound (expect_sound close) hst₂ fun _ vs st₃ hclose hvs hst₃ => ?_
      subst hclose
      exact ⟨_, ⟨ts, .last hitem, by simp⟩, hts.append (hus.append hvs), hst₃⟩

theorem arguments_sound (close : Symbol) :
    Sound n (arguments inner close) fun ts items =>
      ∃ us, Arguments us items ∧ ts = us ++ [.symbol close] := by
  intro st hst hlen
  unfold arguments
  refine andThen_of_sound (eat_sound close) hst fun closed ts st₁ hclosed hts hst₁ => ?_
  have hlen₁ := hts.length_eq
  subst hclosed
  cases closed with
  | true => exact ⟨_, ⟨[], .none, rfl⟩, hts, hst₁⟩
  | false =>
    refine (argumentsTail_sound hin close (by omega) st₁ hst₁ (Nat.le_refl _)).imp fun r hr => ?_
    exact hr.prepend hts fun us items ⟨vs, hvs, hus⟩ => ⟨vs, .some hvs, hus⟩

omit hin

theorem segment_sound (n : Nat) :
    Sound n segment fun ts name => ∃ t, ts = [t] ∧ Segment t name := by
  intro st hst _
  unfold segment
  refine bump_andThen hst fun t st₁ _ hnext => ?_
  dsimp only
  split
  · next name hname =>
    have hsegment := segment?_eq_some_iff.1 hname
    obtain ⟨hgives, hst₁⟩ := hnext (by cases hsegment <;> rfl)
    exact ⟨[t], ⟨t, rfl, hsegment⟩, hgives, hst₁⟩
  · exact fun _ => by simp

theorem segments_sound (fuel : Nat) : Sound fuel (segments fuel) Segments := by
  induction fuel with
  | zero => exact sound_zero
  | succ fuel ih =>
    intro st hst hlen
    unfold segments
    split
    · next hpeek =>
      refine bump_andThen hst fun t st₁ ht hnext => ?_
      obtain rfl : Token.symbol .dot = t := Option.some.inj (hpeek.symm.trans ht)
      obtain ⟨hgives, hst₁⟩ := hnext rfl
      refine andThen_of_sound segment_sound hst₁ fun name ts st₂ hname hts hst₂ => ?_
      obtain ⟨t, rfl, hsegment⟩ := hname
      have hlen₁ := hgives.length_eq
      have hlen₂ := hts.length_eq
      rw [List.length_singleton] at hlen₁ hlen₂
      refine ih.andThen hst₂ (by omega) fun names us st₃ hnames hus hst₃ => ?_
      exact ⟨_, .dotted hsegment hnames, hgives.append (hts.append hus), hst₃⟩
    · next hpeek =>
      refine bump_andThen hst fun t st₁ ht hnext => ?_
      obtain rfl : Token.symbol .leftBracket = t := Option.some.inj (hpeek.symm.trans ht)
      obtain ⟨hgives, hst₁⟩ := hnext rfl
      refine andThen_of_sound segment_sound hst₁ fun name ts st₂ hname hts hst₂ => ?_
      obtain ⟨t, rfl, hsegment⟩ := hname
      refine andThen_of_sound (expect_sound .rightBracket) hst₂ fun _ us st₃ hclose hus hst₃ => ?_
      subst hclose
      have hlen₁ := hgives.length_eq
      have hlen₂ := hts.length_eq
      have hlen₃ := hus.length_eq
      rw [List.length_singleton] at hlen₁ hlen₂ hlen₃
      refine ih.andThen hst₃ (by omega) fun names vs st₄ hnames hvs hst₄ => ?_
      exact ⟨_, .bracketed hsegment hnames, hgives.append (hts.append (hus.append hvs)), hst₄⟩
    · exact ⟨[], .none, .nil, hst⟩

include hin

theorem primary_sound : Sound (n + 1) (primary inner) Primary := by
  intro st hst hlen
  unfold primary
  refine bump_andThen hst fun t st₁ _ hnext => ?_
  have hshort (h : t.isStop = false) : st₁.length ≤ n := by
    have hlen₁ := (hnext h).1.length_eq
    rw [List.length_singleton] at hlen₁
    omega
  have hliteral {v : Value} (hv : Literal t v) (h : t.isStop = false) :
      Reads Primary st (.literal v, st₁) := ⟨_, .literal hv, hnext h⟩
  dsimp only
  split
  · exact hliteral (.int _) rfl
  · exact hliteral (.float _) rfl
  · exact hliteral (.string _) rfl
  · exact hliteral (.bool _) rfl
  · exact hliteral .null rfl
  · obtain ⟨hgives, hst₁⟩ := hnext rfl
    refine hin.andThen hst₁ (hshort rfl) fun e ts st₂ he hts hst₂ => ?_
    refine andThen_of_sound (expect_sound .rightParen) hst₂ fun _ us st₃ hclose hus hst₃ => ?_
    subst hclose
    exact ⟨_, .parens he, hgives.append (hts.append hus), hst₃⟩
  · obtain ⟨hgives, hst₁⟩ := hnext rfl
    refine (arguments_sound hin .rightBracket).andThen hst₁ (hshort rfl)
      fun items ts st₂ hitems hts hst₂ => ?_
    obtain ⟨us, hus, rfl⟩ := hitems
    exact ⟨_, .list hus, hgives.append hts, hst₂⟩
  · next name =>
    obtain ⟨hgives, hst₁⟩ := hnext rfl
    refine andThen_of_sound (eat_sound .leftParen) hst₁ fun called ts st₂ hcalled hts hst₂ => ?_
    have hlen₂ := hts.length_eq
    have hlen₁ := hshort rfl
    subst hcalled
    cases called with
    | true =>
      refine (arguments_sound hin .rightParen).andThen hst₂ (by omega)
        fun items us st₃ hitems hus hst₃ => ?_
      obtain ⟨vs, hvs, rfl⟩ := hitems
      exact ⟨_, .call hvs, hgives.append (hts.append hus), hst₃⟩
    | false =>
      refine (segments_sound _).andThen hst₂ (Nat.le_refl _) fun names us st₃ hnames hus hst₃ => ?_
      exact ⟨_, .path hnames, hgives.append (hts.append hus), hst₃⟩
  · exact fun _ => by simp

/-! ### Expressions and snippets -/

theorem exprWith_sound : Sound (n + 1) (exprWith inner) Expression := by
  intro st hst hlen
  unfold exprWith
  have hunary : Sound (n + 1) (fun st => unary (primary inner) st.length st) Operand :=
    fun st hst hlen => unary_sound (primary_sound hin) hlen st hst (Nat.le_refl _)
  rw [levels_eq]
  refine (chains_sound hunary BinaryOp.levels).andThen hst hlen
    fun condition ts st₁ hcondition hts hst₁ => ?_
  refine andThen_of_sound (eat_sound .question) hst₁ fun asked us st₂ hasked hus hst₂ => ?_
  have hlen₁ := hts.length_eq
  have hlen₂ := hus.length_eq
  subst hasked
  cases asked with
  | true =>
    rw [if_pos rfl, List.length_singleton] at hlen₂
    refine hin.andThen hst₂ (by omega) fun yes vs st₃ hyes hvs hst₃ => ?_
    refine andThen_of_sound (expect_sound .colon) hst₃ fun _ ws st₄ hcolon hws hst₄ => ?_
    have hlen₃ := hvs.length_eq
    have hlen₄ := hws.length_eq
    refine hin.andThen hst₄ (by omega) fun no xs st₅ hno hxs hst₅ => ?_
    subst hcolon
    refine ⟨_, .cond hcondition hyes hno, ?_, hst₅⟩
    simpa using hts.append (hus.append (hvs.append (hws.append hxs)))
  | false => exact ⟨_, .chain hcondition, by simpa using hts.append hus, hst₂⟩

end Primaries

theorem expr_sound (fuel : Nat) : Sound fuel (expr fuel) Expression := by
  induction fuel with
  | zero => exact sound_zero
  | succ fuel ih => exact exprWith_sound ih

/-- A snippet that is read is derived by all tokens up to the end token. -/
theorem snippet_sound {st : Stream} (hst : Ready st) :
    EndsIn Fault.InBounds
      (fun e => ∃ ts pos, Snippet ts e ∧ Gives ts st [.ok ⟨.stop, pos⟩]) (snippet st) := by
  unfold snippet
  extract_lets rest
  have hrest (before : List Token) (r : Token × Stream) (hbefore : Optional .ret before)
      (hgives : Gives before st r.2) (hr : Ready r.2) :
      EndsIn Fault.InBounds
        (fun e => ∃ ts pos, Snippet ts e ∧ Gives ts st [.ok ⟨.stop, pos⟩]) (rest r) := by
    refine (expr_sound _).andThen hr (Nat.le_refl _) fun e ts st₁ he hts hst₁ => ?_
    refine andThen_of_sound (eat_sound .semicolon) hst₁ fun ended us st₂ hended hus hst₂ => ?_
    have hafter : Optional (.symbol .semicolon) us := by
      subst hended
      cases ended <;> constructor
    dsimp only
    split
    · next hpeek =>
      obtain ⟨pos, rfl⟩ := eq_stop_of_peek hst₂ hpeek
      exact ⟨_, pos, .intro hbefore he hafter, (hgives.append hts).append hus⟩
    · exact fun _ => by simp
    · next hpeek =>
      cases hst₂ <;> cases hpeek
  split
  · next hpeek =>
    refine bump_andThen hst fun t st₁ ht hnext => ?_
    obtain rfl : Token.ret = t := Option.some.inj (hpeek.symm.trans ht)
    obtain ⟨hgives, hst₁⟩ := hnext rfl
    exact hrest [.ret] (.ret, st₁) .present hgives hst₁
  · exact hrest [] (.stop, st) .absent .nil hst

end Parse

end Code

end PathBag
