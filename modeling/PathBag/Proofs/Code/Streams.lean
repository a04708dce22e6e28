import PathBag.Code.Lexeme

/-!
# The tokens of a text

`k.Lexes ts`: step by step, the text after the cursor is cut into the tokens `ts` and then ends,
without a fault on the way.  The stream of a text has a place for each of these steps: it gives the
tokens of the text followed by the end token exactly if the text is cut into them
(`lexes_iff_gives`), and else it ends in a fault (`ofCode_ready`).

Every token but the last takes a character (`next_shorter`), which is why there are places enough.
-/

namespace PathBag

/-- The fault is another than running out of tokens. -/
def Fault.InBounds (fault : Fault) : Prop := ∀ pos, fault ≠ .outOfTokens pos

/-- The fault is that of a snag, which keeps a token from being taken. -/
def Fault.IsLexical (fault : Fault) : Prop :=
  ∃ (snag : Code.Snag) (start stop : Code.Position), fault = snag.fault start stop

theorem Fault.IsLexical.inBounds {fault : Fault} (h : fault.IsLexical) : fault.InBounds := by
  obtain ⟨snag, start, stop, rfl⟩ := h
  cases snag <;> exact fun _ => Fault.noConfusion

namespace Code

/-! ### Every token takes a character -/

theorem scanString_suffix (quote : Char) (cs : List Char) : (scanString quote cs).2 <:+ cs := by
  fun_induction scanString quote cs with
  | case1 => exact List.suffix_rfl
  | case2 c cs content rest h ih =>
    rw [h] at ih
    exact (ih.trans (List.suffix_cons c cs)).trans (List.suffix_cons _ _)
  | case3 => exact List.suffix_cons _ _
  | case4 c cs _ _ content rest h ih =>
    rw [h] at ih
    exact ih.trans (List.suffix_cons c cs)

theorem scanNumber_suffix (point : Bool) {c : Char} (hc : Decimal.isDigit c = true)
    (cs : List Char) : (scanNumber point (c :: cs)).2 <:+ cs := by
  have hrest : (c :: cs).dropWhile Decimal.isDigit <:+ cs := by
    rw [List.dropWhile_cons_of_pos hc]
    exact List.dropWhile_suffix _
  unfold scanNumber
  dsimp only
  split
  · next d ds h =>
    split
    · rw [h] at hrest
      exact ((List.dropWhile_suffix _).trans (List.suffix_cons _ _)).trans hrest
    · exact hrest
  · exact hrest

theorem scanSymbol_suffix (c : Char) (cs : List Char) : (scanSymbol c cs).2 <:+ cs := by
  unfold scanSymbol
  split
  · exact List.tail_suffix cs
  · split <;> exact List.suffix_rfl

theorem scan_suffix (point : Bool) (c : Char) (cs : List Char) : (scan point c cs).2 <:+ cs := by
  unfold scan
  split
  · have hstring := scanString_suffix c cs
    split <;> next h => simpa [h] using hstring
  · split
    · next hdigit => exact scanNumber_suffix point hdigit cs
    · split
      · exact List.dropWhile_suffix _
      · exact scanSymbol_suffix c cs

theorem isStop_wordToken (name : String) : (wordToken name).isStop = false := by
  unfold wordToken
  split <;> rfl

namespace Cursor

theorem next_shorter {k k' : Cursor} {t : Token} (h : k.next = (.ok t, k'))
    (ht : t.isStop = false) : k'.rest.length < k.rest.length := by
  have hskip : k.skipBlanks.rest.length ≤ k.rest.length := (List.dropWhile_suffix _).length_le
  unfold next at h
  dsimp only at h
  split at h
  · cases h
    cases ht
  · next c cs hrest =>
    have hscan := (scan_suffix (!k.afterDot) c cs).length_le
    split at h
    · cases h
      rw [hrest, List.length_cons] at hskip
      exact Nat.lt_of_lt_of_le (Nat.lt_succ_of_le hscan) hskip
    · cases h

theorem next_isLexical {k k' : Cursor} {fault : Fault} (h : k.next = (.error fault, k')) :
    fault.IsLexical := by
  unfold next at h
  dsimp only at h
  split at h
  · cases h
  · split at h
    · cases h
    · cases h
      exact ⟨_, _, _, rfl⟩

/-- The text after a cursor is cut into these tokens, up to its end. -/
inductive Lexes : Cursor → List Token → Prop
  | stop {k k' : Cursor} : k.next = (.ok .stop, k') → Lexes k []
  | token {k k' : Cursor} {t : Token} {ts : List Token} : k.next = (.ok t, k') →
      t.isStop = false → Lexes k' ts → Lexes k (t :: ts)

end Cursor

/-! ### Streams -/

namespace Stream

/-- The stream gives these tokens and then goes on as another stream. -/
inductive Gives : List Token → Stream → Stream → Prop
  | nil {st : Stream} : Gives [] st st
  | cons {t : Token} {pos : Position} {ts : List Token} {st st' : Stream} :
      Gives ts st st' → Gives (t :: ts) (.ok ⟨t, pos⟩ :: st) st'

theorem gives_cons_iff {t : Token} {ts : List Token} {st st' : Stream} :
    Gives (t :: ts) st st' ↔ ∃ pos mid, st = .ok ⟨t, pos⟩ :: mid ∧ Gives ts mid st' := by
  constructor
  · rintro (_ | h)
    exact ⟨_, _, rfl, h⟩
  · rintro ⟨pos, mid, rfl, h⟩
    exact .cons h

theorem gives_singleton_iff {t : Token} {st st' : Stream} :
    Gives [t] st st' ↔ ∃ pos, st = .ok ⟨t, pos⟩ :: st' := by
  constructor
  · rintro (_ | (_ | _))
    exact ⟨_, rfl⟩
  · rintro ⟨pos, rfl⟩
    exact .cons .nil

theorem gives_append_iff {ts us : List Token} {st st' : Stream} :
    Gives (ts ++ us) st st' ↔ ∃ mid, Gives ts st mid ∧ Gives us mid st' := by
  induction ts generalizing st with
  | nil =>
    refine ⟨fun h => ⟨st, .nil, h⟩, ?_⟩
    rintro ⟨mid, h, hus⟩
    cases h
    exact hus
  | cons t ts ih =>
    rw [List.cons_append]
    constructor
    · intro h
      obtain ⟨pos, rest, rfl, hrest⟩ := gives_cons_iff.1 h
      obtain ⟨mid, hts, hus⟩ := ih.1 hrest
      exact ⟨mid, .cons hts, hus⟩
    · rintro ⟨mid, h, hus⟩
      obtain ⟨pos, rest, rfl, hts⟩ := gives_cons_iff.1 h
      exact .cons (ih.2 ⟨mid, hts, hus⟩)

theorem Gives.append {ts us : List Token} {st mid st' : Stream} (h : Gives ts st mid)
    (h' : Gives us mid st') : Gives (ts ++ us) st st' := gives_append_iff.2 ⟨mid, h, h'⟩

theorem Gives.length_eq {ts : List Token} {st st' : Stream} (h : Gives ts st st') :
    st.length = ts.length + st'.length := by
  induction h with
  | nil => simp
  | cons _ ih =>
    rw [List.length_cons, List.length_cons, ih]
    omega

theorem Gives.suffix {ts : List Token} {st st' : Stream} (h : Gives ts st st') : st' <:+ st := by
  induction h with
  | nil => exact List.suffix_rfl
  | cons _ ih => exact ih.trans (List.suffix_cons _ _)

/-- A lexeme is ahead, and the stream goes on up to the end token or up to a fault. -/
inductive Ready : Stream → Prop
  | stop {pos : Position} : Ready [.ok ⟨.stop, pos⟩]
  | fault {t : Token} {pos : Position} {fault : Fault} : t.isStop = false → fault.InBounds →
      Ready [.ok ⟨t, pos⟩, .error fault]
  | token {t : Token} {pos : Position} {st : Stream} : t.isStop = false → Ready st →
      Ready (.ok ⟨t, pos⟩ :: st)

theorem Ready.length_pos {st : Stream} (h : Ready st) : 0 < st.length := by
  cases h <;> simp

theorem lexemes_ready {fuel : Nat} {k : Cursor} (hfuel : k.rest.length < fuel) :
    (∃ fault : Fault, fault.InBounds ∧ k.lexemes fuel = [.error fault]) ∨
      Ready (k.lexemes fuel) := by
  induction fuel generalizing k with
  | zero => exact absurd hfuel (Nat.not_lt_zero _)
  | succ fuel ih =>
    unfold Cursor.lexemes
    split
    · next fault k' h => exact .inl ⟨fault, (Cursor.next_isLexical h).inBounds, rfl⟩
    · next t k' h =>
      right
      cases hstop : t.isStop with
      | true =>
        obtain rfl : t = .stop := by
          cases t <;> first | rfl | cases hstop
        exact .stop
      | false =>
        have hshort := Cursor.next_shorter h hstop
        rcases ih (k := k') (by omega) with ⟨fault, hfault, heq⟩ | hready
        · simpa [heq] using Ready.fault hstop hfault
        · exact .token hstop hready

theorem isLexical_of_mem_lexemes {fuel : Nat} {k : Cursor} {fault : Fault}
    (h : .error fault ∈ k.lexemes fuel) : fault.IsLexical := by
  induction fuel generalizing k with
  | zero => exact absurd h List.not_mem_nil
  | succ fuel ih =>
    unfold Cursor.lexemes at h
    split at h
    · next fault' k' hnext =>
      obtain rfl : fault = fault' := by simpa using h
      exact Cursor.next_isLexical hnext
    · next t k' hnext =>
      rcases List.mem_cons.1 h with h | h
      · cases h
      · cases hstop : t.isStop with
        | true => simp [hstop] at h
        | false => exact ih (by simpa [hstop] using h)

theorem gives_of_lexes {k : Cursor} {ts : List Token} (h : k.Lexes ts) {fuel : Nat}
    (hfuel : k.rest.length < fuel) :
    ∃ pos, Gives ts (k.lexemes fuel) [.ok ⟨.stop, pos⟩] := by
  induction h generalizing fuel with
  | @stop k k' h =>
    obtain ⟨fuel, rfl⟩ := Nat.exists_eq_succ_of_ne_zero (Nat.ne_zero_of_lt hfuel)
    exact ⟨k'.pos, by rw [Cursor.lexemes, h]; exact .nil⟩
  | @token k k' t ts h hstop _ ih =>
    obtain ⟨fuel, rfl⟩ := Nat.exists_eq_succ_of_ne_zero (Nat.ne_zero_of_lt hfuel)
    have hshort := Cursor.next_shorter h hstop
    obtain ⟨pos, hgives⟩ := @ih fuel (by omega)
    refine ⟨pos, ?_⟩
    rw [Cursor.lexemes, h]
    simpa [hstop] using Gives.cons hgives

theorem lexes_of_gives {fuel : Nat} {k : Cursor} {ts : List Token} {pos : Position}
    (h : Gives ts (k.lexemes fuel) [.ok ⟨.stop, pos⟩]) : k.Lexes ts := by
  induction fuel generalizing k ts with
  | zero => cases h
  | succ fuel ih =>
    unfold Cursor.lexemes at h
    split at h
    · next hnext =>
      cases h
    · next t k' hnext =>
      generalize hrest : (if t.isStop = true then [] else k'.lexemes fuel) = rest at h
      cases h with
      | nil => exact .stop hnext
      | cons h =>
        cases hstop : t.isStop with
        | true =>
          rw [if_pos hstop] at hrest
          subst hrest
          cases h
        | false =>
          rw [if_neg (by simp [hstop])] at hrest
          subst hrest
          exact .token hnext hstop (ih h)

/-- The stream of a text is one fault, or a lexeme is ahead. -/
theorem ofCode_ready (code : String) :
    (∃ fault : Fault, fault.InBounds ∧ ofCode code = [.error fault]) ∨ Ready (ofCode code) :=
  lexemes_ready (Nat.lt_succ_self _)

/-- The stream of a text gives the tokens into which the text is cut. -/
theorem lexes_iff_gives {code : String} {ts : List Token} :
    (Cursor.start code).Lexes ts ↔ ∃ pos, Gives ts (ofCode code) [.ok ⟨.stop, pos⟩] :=
  ⟨fun h => gives_of_lexes h (Nat.lt_succ_self _), fun ⟨_, h⟩ => lexes_of_gives h⟩

end Stream

end Code

end PathBag
