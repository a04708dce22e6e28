import PathBag.Proofs.Code.Paths

/-!
# Tokens as text

A printer of tokens beside the cutting of code into lexemes: a symbol is printed as it is written, a
string between single quotes with a backslash in front of each backslash and single quote, and an
integer in canonical decimals.  The text of a token is scanned as this token wherever a space or
the end comes behind it (`scan_text`), so the lexemes of printed tokens are these tokens again
(`Stream.tokens_ofCode_texts`).
-/

namespace PathBag.Code

/-! ### Printing -/

/-- The words that are no names. -/
def keywords : List String := ["true", "false", "null", "and", "or", "not", "return"]

/-- A symbol as it is written. -/
def Symbol.text : Symbol → String
  | .leftParen => "("
  | .rightParen => ")"
  | .leftBracket => "["
  | .rightBracket => "]"
  | .comma => ","
  | .dot => "."
  | .question => "?"
  | .colon => ":"
  | .semicolon => ";"
  | .plus => "+"
  | .minus => "-"
  | .star => "*"
  | .slash => "/"
  | .percent => "%"
  | .tilde => "~"
  | .bang => "!"
  | .equal => "=="
  | .notEqual => "!="
  | .less => "<"
  | .lessEqual => "<="
  | .greater => ">"
  | .greaterEqual => ">="
  | .both => "&&"
  | .either => "||"
  | .coalesce => "??"

/-- A character between single quotes. -/
def escape (c : Char) : List Char := if c = '\\' ∨ c = '\'' then ['\\', c] else [c]

namespace Token

/-- The tokens that are printed: a name is a word and no keyword, an integer has no sign. -/
def IsPrinted : Token → Prop
  | word name => Text.isWord name.toList = true ∧ name ∉ keywords
  | int n => 0 ≤ n.toInt
  | float _ | stop => False
  | string _ | bool _ | null | symbol _ | ret => True

instance : (t : Token) → Decidable t.IsPrinted
  | word _ => inferInstanceAs (Decidable (_ ∧ _))
  | int n => inferInstanceAs (Decidable (0 ≤ n.toInt))
  | float _ | stop => inferInstanceAs (Decidable False)
  | string _ | bool _ | null | symbol _ | ret => inferInstanceAs (Decidable True)

/-- The text of a token that is printed. -/
def text : Token → String
  | word name => name
  | string s => String.ofList ('\'' :: s.toList.flatMap escape ++ ['\''])
  | int n => Decimal.writeInt64 n
  | bool true => "true"
  | bool false => "false"
  | null => "null"
  | symbol s => s.text
  | ret => "return"
  | float _ | stop => ""

/-- The text of tokens, with a space between each two. -/
def texts (ts : List Token) : String := String.intercalate " " (ts.map text)

end Token

/-- The tokens of a stream, without their places. -/
def Stream.tokens (st : Stream) : List (Except Fault Token) := st.map (Except.map Lexeme.token)

/-! ### Scanning what is printed -/

/-- Text in front of which a token ends: there is none, or a space comes first. -/
def Apart (rest : List Char) : Prop := ∀ c, rest.head? = some c → c = ' '

theorem Apart.ends {rest : List Char} (h : Apart rest) : Ends rest := by
  intro c hc
  rw [h c hc]
  decide

theorem Apart.cases {rest : List Char} (h : Apart rest) : rest = [] ∨ ∃ more, rest = ' ' :: more := by
  cases rest with
  | nil => exact .inl rfl
  | cons c more => exact .inr ⟨more, by rw [h c rfl]⟩

theorem wordToken_of_notMem {name : String} (h : name ∉ keywords) :
    wordToken name = .word name := by
  unfold wordToken
  split <;> simp_all [keywords]

/-- A text is scanned as a token wherever it stands apart, behind a dot or not. -/
def ScansAs (t : Token) (text : String) : Prop :=
  ∃ c cs, text.toList = c :: cs ∧ Text.isBlank c = false ∧
    ∀ point rest, Apart rest → scan point c (cs ++ rest) = (.ok t, rest)

theorem scansAs_word (word : String) (h : Text.isWord word.toList = true) :
    ScansAs (wordToken word) word := by
  obtain ⟨c, cs, hlist, hc, hcs⟩ := Text.exists_of_isWord h
  have hblank := Text.isBlank_of_isWordPart (Text.isWordPart_of_isWordStart hc)
  refine ⟨c, cs, hlist, hblank, fun point rest hrest => ?_⟩
  rw [scan_word point hc hcs hrest.ends, ← hlist, String.ofList_toList]

theorem scansAs_int {n : Int64} (h : 0 ≤ n.toInt) : ScansAs (.int n) (Decimal.writeInt64 n) := by
  obtain ⟨m, hm⟩ := Int.eq_ofNat_of_zero_le h
  have htext : (Decimal.writeInt64 n).toList = Nat.toDigits 10 m := by
    rw [Decimal.writeInt64, Decimal.writeInt, hm, if_neg (by omega), Decimal.writeNat,
      String.toList_ofList, Int.natAbs_natCast]
  obtain ⟨c, cs, hcs, hblank, hscan⟩ := scan_toDigits_append m
  refine ⟨c, cs, htext.trans hcs, hblank, fun point rest hrest => ?_⟩
  have hpoint : rest.head? ≠ some '.' := fun hdot => absurd (hrest '.' hdot) (by decide)
  rw [hscan point rest hrest.ends hpoint, Decimal.toInt64?_eq_some_iff.2 hm]

/-- Escapes are taken back up to the quote that stands alone. -/
theorem scanString_escape (cs rest : List Char) :
    scanString '\'' (cs.flatMap escape ++ '\'' :: rest) = (some cs, rest) := by
  induction cs with
  | nil => rfl
  | cons c cs ih =>
    rw [List.flatMap_cons, List.append_assoc]
    by_cases hc : c = '\\' ∨ c = '\''
    · have hsame : unescape c = c := by
        obtain rfl | rfl := hc <;> rfl
      rw [escape, if_pos hc, List.cons_append, List.cons_append, List.nil_append, scanString, ih]
      simp [hsame]
    · obtain ⟨hslash, hquote⟩ := not_or.1 hc
      rw [escape, if_neg hc, List.cons_append, List.nil_append, scanString, if_neg hquote, ih]
      · rfl
      · exact fun _ _ h _ => hslash h

theorem scansAs_string (s : String) : ScansAs (.string s) (Token.string s).text := by
  refine ⟨'\'', s.toList.flatMap escape ++ ['\''], String.toList_ofList, by decide,
    fun point rest _ => ?_⟩
  rw [scan, if_pos (.inr rfl), List.append_assoc, List.singleton_append, scanString_escape]
  simp

theorem scansAs_symbol (s : Symbol) : ScansAs (.symbol s) s.text := by
  cases s <;>
  · refine ⟨_, _, rfl, by decide, fun point rest hrest => ?_⟩
    obtain rfl | ⟨more, rfl⟩ := hrest.cases <;> rfl

theorem scan_text {t : Token} (h : t.IsPrinted) : ScansAs t t.text := by
  cases t with
  | word name =>
    obtain ⟨hword, hname⟩ := h
    have hscan : ScansAs (wordToken name) name := scansAs_word name hword
    rwa [wordToken_of_notMem hname] at hscan
  | string s => exact scansAs_string s
  | int n => exact scansAs_int h
  | float x => exact h.elim
  | bool b =>
    cases b with
    | true => exact scansAs_word "true" (by decide)
    | false => exact scansAs_word "false" (by decide)
  | null => exact scansAs_word "null" (by decide)
  | symbol s => exact scansAs_symbol s
  | ret => exact scansAs_word "return" (by decide)
  | stop => exact h.elim

theorem Token.isStop_of_isPrinted {t : Token} (h : t.IsPrinted) : t.isStop = false := by
  cases t with
  | stop => exact h.elim
  | _ => rfl

/-! ### The lexemes of what is printed -/

/-- The texts of tokens with a space in front of each. -/
def spaced (ts : List Token) : List Char := ts.flatMap fun t => ' ' :: t.text.toList

theorem apart_spaced (ts : List Token) : Apart (spaced ts) := by
  intro c hc
  cases ts with
  | nil => cases hc
  | cons t ts =>
    cases hc
    rfl

theorem toList_texts (t : Token) (ts : List Token) :
    (Token.texts (t :: ts)).toList = t.text.toList ++ spaced ts := by
  rw [Token.texts, String.toList_intercalate, List.map_map, List.map_cons]
  exact (intercalate_cons ' ' _ _).trans (by rw [List.flatMap_map]; rfl)

/-- One token is taken from its text, and the cursor stands behind it. -/
theorem lexemes_text {t : Token} (ht : t.IsPrinted) {k : Cursor} {rest : List Char}
    (hrest : Apart rest)
    (hk : k.rest = t.text.toList ++ rest ∨ k.rest = ' ' :: (t.text.toList ++ rest)) (fuel : Nat) :
    ∃ pos, k.lexemes (fuel + 1) =
      .ok ⟨t, pos⟩ :: (Cursor.mk rest pos (t.isSymbol .dot)).lexemes fuel := by
  obtain ⟨c, cs, htext, hblank, hscan⟩ := scan_text ht
  have hskip : k.skipBlanks.rest = c :: (cs ++ rest) := by
    have hstay : (c :: (cs ++ rest)).dropWhile Text.isBlank = c :: (cs ++ rest) :=
      List.dropWhile_cons_of_neg (by simp [hblank])
    rw [htext, List.cons_append] at hk
    obtain hk | hk := hk
    · rw [Cursor.skipBlanks, hk, hstay]
    · rw [Cursor.skipBlanks, hk, List.dropWhile_cons_of_pos (by decide), hstay]
  obtain ⟨pos, hnext⟩ := Cursor.next_of_skipBlanks hskip (hscan _ rest hrest)
  exact ⟨pos, Cursor.lexemes_of_next fuel hnext (Token.isStop_of_isPrinted ht)⟩

theorem length_text_pos {t : Token} (ht : t.IsPrinted) : 0 < t.text.toList.length := by
  obtain ⟨c, cs, htext, -⟩ := scan_text ht
  rw [htext]
  exact Nat.succ_pos _

/-- Behind the first token every text has a space in front of it. -/
theorem tokens_lexemes {ts : List Token} (hts : ∀ t ∈ ts, t.IsPrinted) {k : Cursor}
    (hk : k.rest = (Token.texts ts).toList ∨ k.rest = spaced ts) {fuel : Nat}
    (hfuel : k.rest.length < fuel) :
    (k.lexemes fuel).tokens = (ts ++ [Token.stop]).map .ok := by
  induction ts generalizing k fuel with
  | nil =>
    have hnil : k.rest = [] := hk.elim id id
    obtain ⟨fuel, rfl⟩ := Nat.exists_eq_succ_of_ne_zero (Nat.ne_zero_of_lt hfuel)
    obtain ⟨pos, hnext⟩ := Cursor.next_of_nil hnil
    rw [Cursor.lexemes, hnext]
    rfl
  | cons t ts ih =>
    obtain ⟨ht, hts⟩ := List.forall_mem_cons.1 hts
    have hlength := length_text_pos ht
    have hrest : k.rest = t.text.toList ++ spaced ts ∨
        k.rest = ' ' :: (t.text.toList ++ spaced ts) := by
      rwa [toList_texts] at hk
    have hshort : (spaced ts).length < k.rest.length := by
      obtain hk | hk := hrest <;> simp only [hk, List.length_cons, List.length_append] <;> omega
    obtain ⟨fuel, rfl⟩ := Nat.exists_eq_succ_of_ne_zero (Nat.ne_zero_of_lt hfuel)
    obtain ⟨pos, hlexemes⟩ := lexemes_text ht (apart_spaced ts) hrest fuel
    have hfewer : (spaced ts).length < fuel := by omega
    have hmore := ih hts (k := ⟨spaced ts, pos, t.isSymbol .dot⟩) (.inr rfl) hfewer
    rw [hlexemes, Stream.tokens, List.map_cons, ← Stream.tokens, hmore]
    rfl

/-- **Cutting code into lexemes takes back the printing of tokens.**  The lexemes of printed tokens
are these tokens and the end token, without a fault. -/
theorem Stream.tokens_ofCode_texts {ts : List Token} (hts : ∀ t ∈ ts, t.IsPrinted) :
    (Stream.ofCode (Token.texts ts)).tokens = (ts ++ [Token.stop]).map .ok :=
  tokens_lexemes hts (.inl rfl) (Nat.lt_succ_self _)

/-- Symbols that begin alike, a word that begins with a keyword, digits behind a dot, and a string
of both quotes, a backslash, a line break and something like an escape. -/
def Token.alike : List Token :=
  [.symbol .less, .symbol .lessEqual, .word "nota", .symbol .dot, .int 0, .symbol .dot,
    .int Int64.maxValue, .ret, .bool false, .string "it's \"\\n\"\n", .symbol .question,
    .symbol .coalesce]

theorem Stream.tokens_ofCode_texts_alike :
    (∀ t ∈ Token.alike, t.IsPrinted) ∧
      Token.texts Token.alike =
        "< <= nota . 0 . 9223372036854775807 return false 'it\\'s \"\\\\n\"\n' ? ??" ∧
      (Stream.ofCode (Token.texts Token.alike)).tokens =
        (Token.alike ++ [Token.stop]).map .ok := by
  have halike : ∀ t ∈ Token.alike, t.IsPrinted := by decide
  exact ⟨halike, by decide, Stream.tokens_ofCode_texts halike⟩

end PathBag.Code
