import PathBag.Json.Printer
import PathBag.Json.Reader
import PathBag.Proofs.Decimal.Integers
import PathBag.Proofs.Text.Classes
import PathBag.Proofs.Tree.Names

/-!
# Texts and integers in JSON

What is written for a text or an integer is read back, whatever comes after it, save that an integer
must not run on (`Ends`).

* `readQuoted_quoted`: a character is written in one of three ways, as two characters, as six, or as
  itself, and each of them is undone (`quotedChar_cases`);
* `readNumber_writeInt64`: the digits of a number start with a zero only if it is zero, and an
  integer of 64 bits stays one.
-/

namespace PathBag

/-! ### Decimals of integers -/

namespace Decimal

/-- Only the digits of zero start with a zero. -/
theorem head?_toDigits_ne_zero {n : Nat} (hn : 0 < n) : (Nat.toDigits 10 n).head? ≠ some '0' := by
  induction n using Nat.strongRecOn with
  | ind n ih =>
    rw [Nat.toDigits_eq_if (by decide)]
    split
    · next hlt =>
      have hall : ∀ m < 10, 0 < m → [Nat.digitChar m].head? ≠ some '0' := by decide
      exact hall n hlt hn
    · next hge =>
      have hquotient : (Nat.toDigits 10 (n / 10)).head? ≠ some '0' := ih (n / 10) (by omega) (by omega)
      rwa [List.head?_append, Option.or_of_isSome (by simp [Nat.toDigits_ne_nil])]

end Decimal

namespace Json

/-! ### Quoted texts -/

/-- A character is written as an escape of two characters, as an escape by its number, or as
itself. -/
theorem quotedChar_cases (c : Char) :
    (∃ e, quotedChar c = ['\\', e] ∧ e ≠ 'u' ∧ shortEscape? e = some c) ∨
    (c.toNat < 0x20 ∧
      quotedChar c = ['\\', 'u', '0', '0', hexDigit (c.toNat / 16), hexDigit c.toNat]) ∨
    (quotedChar c = [c] ∧ c ≠ '"' ∧ c ≠ '\\' ∧ ¬ c.toNat < 0x20) := by
  by_cases hshort : c ∈ ['"', '\\', '\x08', '\t', '\n', '\x0C', '\r']
  · left
    simp only [List.mem_cons, List.not_mem_nil, or_false] at hshort
    rcases hshort with rfl | rfl | rfl | rfl | rfl | rfl | rfl <;> exact ⟨_, rfl, by decide, rfl⟩
  · right
    simp only [List.mem_cons, List.not_mem_nil, or_false, not_or] at hshort
    obtain ⟨hquote, hbackslash, hb, ht, hn, hf, hr⟩ := hshort
    have hwritten : quotedChar c = if c.toNat < 0x20 then
        ['\\', 'u', '0', '0', hexDigit (c.toNat / 16), hexDigit c.toNat] else [c] := by
      simp only [quotedChar, hquote, hbackslash, hb, ht, hn, hf, hr, if_false]
    by_cases hcontrol : c.toNat < 0x20
    · exact .inl ⟨hcontrol, hwritten.trans (if_pos hcontrol)⟩
    · exact .inr ⟨hwritten.trans (if_neg hcontrol), hquote, hbackslash, hcontrol⟩

/-- The digits of a control character stand for its number, which is no half of a pair. -/
theorem hexUnit?_control {n : Nat} (h : n < 0x20) :
    hexUnit? '0' '0' (hexDigit (n / 16)) (hexDigit n) = some n := by
  have hall : ∀ m < 0x20, hexUnit? '0' '0' (hexDigit (m / 16)) (hexDigit m) = some m := by decide
  exact hall n h

theorem readQuoted_short {e c : Char} (he : e ≠ 'u') (hc : shortEscape? e = some c)
    (cs : List Char) : readQuoted ('\\' :: e :: cs) = cons c (readQuoted cs) := by
  rw [readQuoted]
  · simp only [hc]
  · rintro _ _ _ _ _ rfl
    exact absurd rfl he

theorem readQuoted_code {a b c d : Char} {n : Nat} (hn : hexUnit? a b c d = some n)
    (hlow : n < 0xD800) (cs : List Char) :
    readQuoted ('\\' :: 'u' :: a :: b :: c :: d :: cs) = cons (Char.ofNat n) (readQuoted cs) := by
  have hpair : ¬ (0xDC00 ≤ n ∧ n < 0xE000) := by omega
  have hpair' : ¬ (0xD800 ≤ n ∧ n < 0xDC00) := by omega
  rw [readQuoted, hn]
  simp only [hpair, hpair', if_false]

theorem readQuoted_plain {c : Char} (hquote : c ≠ '"') (hbackslash : c ≠ '\\')
    (hcontrol : ¬ c.toNat < 0x20) (cs : List Char) :
    readQuoted (c :: cs) = cons c (readQuoted cs) := by
  rw [readQuoted, if_neg hcontrol]
  all_goals simp_all

/-- Reading undoes the writing of one character. -/
theorem readQuoted_quotedChar (c : Char) (cs : List Char) :
    readQuoted (quotedChar c ++ cs) = cons c (readQuoted cs) := by
  rcases quotedChar_cases c with ⟨e, hwritten, he, hc⟩ | ⟨hcontrol, hwritten⟩ |
    ⟨hwritten, hquote, hbackslash, hcontrol⟩
  · rw [hwritten]
    exact readQuoted_short he hc cs
  · have hcode := readQuoted_code (hexUnit?_control hcontrol) (by omega) cs
    rw [Char.ofNat_toNat] at hcode
    rw [hwritten]
    exact hcode
  · rw [hwritten]
    exact readQuoted_plain hquote hbackslash hcontrol cs

theorem readQuoted_quoted (cs rest : List Char) :
    readQuoted (cs.flatMap quotedChar ++ '"' :: rest) = some (cs, rest) := by
  induction cs with
  | nil => rfl
  | cons c cs ih =>
    rw [List.flatMap_cons, List.append_assoc, readQuoted_quotedChar, ih]
    rfl

/-! ### Integers -/

/-- What comes after a value: the text ends, or one of these characters closes the value off. -/
def Ends (rest : List Char) : Prop := ∀ c, rest.head? = some c → c ∈ [',', ']', '\x7D', '\n']

theorem ends_nil : Ends [] := fun _ h => by cases h

theorem ends_cons {c : Char} (hc : c ∈ [',', ']', '\x7D', '\n']) (rest : List Char) :
    Ends (c :: rest) := by
  rintro _ ⟨⟩
  exact hc

/-- What closes a value off is no part of a number. -/
theorem notNumeric_of_ends {c : Char} {rest : List Char} (h : Ends (c :: rest)) :
    Decimal.isDigit c = false ∧ c ≠ '.' ∧ ¬ (c = 'e' ∨ c = 'E') := by
  have hmem := h c rfl
  simp only [List.mem_cons, List.not_mem_nil, or_false] at hmem
  rcases hmem with rfl | rfl | rfl | rfl <;> decide

section Ending

variable {rest : List Char}

theorem takeWhile_isDigit (h : Ends rest) : rest.takeWhile Decimal.isDigit = [] := by
  cases rest with
  | nil => rfl
  | cons c rest =>
    obtain ⟨hdigit, -, -⟩ := notNumeric_of_ends h
    exact List.takeWhile_cons_of_neg (by simp [hdigit])

theorem dropWhile_isDigit (h : Ends rest) : rest.dropWhile Decimal.isDigit = rest := by
  have happ := List.takeWhile_append_dropWhile (p := Decimal.isDigit) (l := rest)
  rwa [takeWhile_isDigit h] at happ

theorem readPlaces_of_ends (h : Ends rest) : readPlaces rest = some (none, rest) := by
  cases rest with
  | nil => rfl
  | cons c rest =>
    obtain ⟨-, hpoint, -⟩ := notNumeric_of_ends h
    rw [readPlaces.eq_def]
    split <;> simp_all

theorem readExponent_of_ends (h : Ends rest) : readExponent rest = some (none, rest) := by
  cases rest with
  | nil => rfl
  | cons c rest =>
    obtain ⟨-, -, hexponent⟩ := notNumeric_of_ends h
    rw [readExponent, if_neg hexponent]

/-- All digits of a number are read. -/
theorem readWhole_toDigits (n : Nat) (h : Ends rest) :
    readWhole (Nat.toDigits 10 n ++ rest) = some (Nat.toDigits 10 n, rest) := by
  rcases Nat.eq_zero_or_pos n with rfl | hn
  · rfl
  · have htake : (Nat.toDigits 10 n ++ rest).takeWhile Decimal.isDigit = Nat.toDigits 10 n := by
      rw [List.takeWhile_append_of_pos fun c hc => Decimal.isDigit_of_mem_toDigits hc,
        takeWhile_isDigit h, List.append_nil]
    have hdrop : (Nat.toDigits 10 n ++ rest).dropWhile Decimal.isDigit = rest := by
      rw [List.dropWhile_append_of_pos fun c hc => Decimal.isDigit_of_mem_toDigits hc,
        dropWhile_isDigit h]
    obtain ⟨d, ds, hds⟩ := List.exists_cons_of_ne_nil (Nat.toDigits_ne_nil (n := n) (b := 10))
    have hd : d ≠ '0' := by
      rintro rfl
      exact Decimal.head?_toDigits_ne_zero hn (by rw [hds]; rfl)
    rw [hds] at htake hdrop ⊢
    rw [readWhole.eq_def]
    split
    · next heq => exact absurd (List.cons.inj heq).1 hd
    · simp only [htake, hdrop]

/-- The parts of an integer: a sign, the digits, and nothing more. -/
theorem readNumber_minus (n : Nat) (h : Ends rest) :
    readNumber ('-' :: (Nat.toDigits 10 n ++ rest)) =
      (numberValue true (Nat.toDigits 10 n) none none).map fun v => (v, rest) := by
  simp only [readNumber, readWhole_toDigits n h, readPlaces_of_ends h, readExponent_of_ends h,
    Option.bind_eq_bind, Option.bind_some]
  cases numberValue true (Nat.toDigits 10 n) none none <;> rfl

theorem readNumber_digits (n : Nat) (h : Ends rest) :
    readNumber (Nat.toDigits 10 n ++ rest) =
      (numberValue false (Nat.toDigits 10 n) none none).map fun v => (v, rest) := by
  have hminus : ∀ cs, Nat.toDigits 10 n ++ rest ≠ '-' :: cs := by
    intro cs heq
    obtain ⟨d, ds, hds⟩ := List.exists_cons_of_ne_nil (Nat.toDigits_ne_nil (n := n) (b := 10))
    have hd : Decimal.isDigit d = true :=
      Decimal.isDigit_of_mem_toDigits (hds ▸ List.mem_cons_self)
    rw [hds] at heq
    rw [(List.cons.inj heq).1] at hd
    exact absurd hd (by decide)
  rw [readNumber]
  · simp only [readWhole_toDigits n h, readPlaces_of_ends h, readExponent_of_ends h,
      Option.bind_eq_bind, Option.bind_some]
    cases numberValue false (Nat.toDigits 10 n) none none <;> rfl
  · exact hminus

/-- An integer starts with its sign or with a digit. -/
theorem exists_writeInt64_eq (n : Int64) : ∃ c cs,
    (Decimal.writeInt64 n).toList = c :: cs ∧ (c = '-' ∨ Decimal.isDigit c = true) := by
  rw [Decimal.writeInt64, Decimal.writeInt]
  split
  · exact ⟨'-', _, String.toList_ofList, .inl rfl⟩
  · obtain ⟨d, ds, hds⟩ :=
      List.exists_cons_of_ne_nil (Nat.toDigits_ne_nil (n := n.toInt.natAbs) (b := 10))
    refine ⟨d, ds, ?_, .inr (Decimal.isDigit_of_mem_toDigits (hds ▸ List.mem_cons_self))⟩
    rw [Decimal.writeNat, String.toList_ofList, hds]

theorem readNumber_writeInt64 (n : Int64) (h : Ends rest) :
    readNumber ((Decimal.writeInt64 n).toList ++ rest) = some (.int n, rest) := by
  rw [Decimal.writeInt64, Decimal.writeInt]
  split
  · next hn =>
    have habs : -(n.toInt.natAbs : Int) = n.toInt := by omega
    have hne : n.toInt.natAbs ≠ 0 := by omega
    have hread : integer? true (Nat.toDigits 10 n.toInt.natAbs) = some n := by
      rw [integer?, Nat.ofDigitChars_ten_toDigits, if_pos rfl, if_neg hne, habs,
        Decimal.toInt64?_toInt]
    rw [String.toList_ofList, List.cons_append, readNumber_minus _ h, numberValue]
    simp only [hread, Option.map_some]
  · next hn =>
    have habs : (n.toInt.natAbs : Int) = n.toInt := by omega
    have hread : integer? false (Nat.toDigits 10 n.toInt.natAbs) = some n := by
      rw [integer?, Nat.ofDigitChars_ten_toDigits, if_neg Bool.false_ne_true, habs,
        Decimal.toInt64?_toInt]
    rw [Decimal.writeNat, String.toList_ofList, readNumber_digits _ h, numberValue]
    simp only [hread, Option.map_some]

end Ending

end Json

end PathBag
