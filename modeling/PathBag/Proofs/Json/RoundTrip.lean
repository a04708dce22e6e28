import PathBag.Proofs.Json.Leaves
import PathBag.Proofs.Json.Nesting
import PathBag.Proofs.Tree.Distinct

/-!
# Values through JSON

A value without floats that is written as JSON, on one line or spread over lines, is read back as it
was, with the order of its mappings, exactly if its composites nest as deep as the limit allows
(`read_write`).

The reader of the items and entries is a parameter of these lemmas.  All that they ask of it is that
it reads back each of the values (`ReadsBack`) and takes no notice of blanks in front, so that the
induction is on the levels that are left.
-/

namespace PathBag

namespace Value

mutual

/-- Is there no float in the value? -/
def floatFree : Value → Bool
  | float _ => false
  | sequence xs => floatFreeItems xs
  | mapping es => floatFreeEntries es
  | _ => true

/-- Is there no float in the items? -/
def floatFreeItems : List Value → Bool
  | [] => true
  | x :: xs => x.floatFree && floatFreeItems xs

/-- Is there no float in the contents of the entries? -/
def floatFreeEntries : List (String × Value) → Bool
  | [] => true
  | (_, x) :: es => x.floatFree && floatFreeEntries es

end

theorem floatFree_sequence {xs : List Value} :
    (sequence xs).floatFree = true ↔ ∀ x ∈ xs, x.floatFree = true := by
  rw [floatFree]
  induction xs with
  | nil => simp [floatFreeItems]
  | cons x xs ih => simp [floatFreeItems, ih]

theorem floatFree_mapping {es : Entries Value} :
    (mapping es).floatFree = true ↔ ∀ e ∈ es, e.2.floatFree = true := by
  rw [floatFree]
  induction es with
  | nil => simp [floatFreeEntries]
  | cons e es ih => simp [floatFreeEntries, ih]

end Value

namespace Json

/-! ### Blanks -/

theorem skipSpace_cons {c : Char} (hc : isSpace c = false) (cs : List Char) :
    skipSpace (c :: cs) = c :: cs := List.dropWhile_cons_of_neg (by simp [hc])

theorem skipSpace_append {gap : List Char} (hgap : ∀ c ∈ gap, isSpace c = true) (cs : List Char) :
    skipSpace (gap ++ cs) = skipSpace cs := List.dropWhile_append_of_pos hgap

theorem skipSpace_skipSpace (cs : List Char) : skipSpace (skipSpace cs) = skipSpace cs := by
  induction cs with
  | nil => rfl
  | cons c cs ih =>
    cases hc : isSpace c with
    | true =>
      have hskip : skipSpace (c :: cs) = skipSpace cs := List.dropWhile_cons_of_pos hc
      rw [hskip, ih]
    | false => rw [skipSpace_cons hc, skipSpace_cons hc]

/-- Before a value stand blanks only. -/
theorem isSpace_of_mem_lineBreak (layout : Layout) (depth : Nat) :
    ∀ c ∈ layout.lineBreak depth, isSpace c = true := by
  cases layout with
  | compact => exact fun _ h => absurd h List.not_mem_nil
  | pretty =>
    refine List.forall_mem_cons.2 ⟨rfl, fun c hc => ?_⟩
    rw [List.eq_of_mem_replicate hc]
    rfl

theorem exists_colon_eq (layout : Layout) :
    ∃ gap, layout.colon = ':' :: gap ∧ ∀ c ∈ gap, isSpace c = true := by
  cases layout with
  | compact => exact ⟨[], rfl, by simp⟩
  | pretty => exact ⟨[' '], rfl, by simp [isSpace]⟩

theorem ends_lineBreak (layout : Layout) (depth : Nat) {c : Char}
    (hc : c ∈ [',', ']', '\x7D', '\n']) (rest : List Char) :
    Ends (layout.lineBreak depth ++ c :: rest) := by
  cases layout with
  | compact => exact ends_cons hc rest
  | pretty => exact ends_cons (by decide) _

theorem readValue_skipSpace (levels : Nat) (cs : List Char) :
    readValue levels (skipSpace cs) = readValue levels cs := by
  cases levels <;> simp only [readValue, skipSpace_skipSpace]

/-! ### Items and entries -/

section Layouts

variable {α : Type} (layout : Layout) (depth : Nat) (close : Char) (text : α → List Char)

/-- The text of one or more things in a composite, from the first of them on, and what comes after
the composite. -/
def manyText (x : α) (xs : List α) (rest : List Char) : List Char :=
  text x ++ ((xs.flatMap fun y => ',' :: (layout.lineBreak (depth + 1) ++ text y)) ++
    (layout.lineBreak depth ++ close :: rest))

/-- There are more characters than things. -/
theorem length_lt_manyText (x : α) (xs : List α) (rest : List Char) :
    xs.length < (manyText layout depth close text x xs rest).length := by
  have hmany : xs.length ≤
      (xs.flatMap fun y => ',' :: (layout.lineBreak (depth + 1) ++ text y)).length := by
    induction xs with
    | nil => exact Nat.le_refl _
    | cons y ys ih =>
      rw [List.flatMap_cons, List.length_append, List.length_cons, List.length_cons]
      omega
  simp only [manyText, List.length_append, List.length_cons]
  omega

/-- The text of an entry. -/
def entryText (e : String × Value) : List Char :=
  quoted e.1.toList ++ layout.colon ++ chars layout depth e.2

theorem itemChars_eq (xs : List Value) :
    itemChars layout depth xs =
      xs.flatMap fun x => ',' :: (layout.lineBreak depth ++ chars layout depth x) := by
  induction xs with
  | nil => rfl
  | cons x xs ih => simp [itemChars, ih]

theorem entryChars_eq (es : List (String × Value)) :
    entryChars layout depth es =
      es.flatMap fun e => ',' :: (layout.lineBreak depth ++ entryText layout depth e) := by
  induction es with
  | nil => rfl
  | cons e es ih => simp [entryChars, ih, entryText]

theorem chars_sequence_cons (x : Value) (xs : List Value) (rest : List Char) :
    chars layout depth (.sequence (x :: xs)) ++ rest = '[' :: (layout.lineBreak (depth + 1) ++
      manyText layout depth ']' (chars layout (depth + 1)) x xs rest) := by
  simp only [chars, itemChars_eq, manyText, List.append_assoc, List.cons_append, List.nil_append]

theorem chars_mapping_cons (e : String × Value) (es : Entries Value) (rest : List Char) :
    chars layout depth (.mapping (e :: es)) ++ rest = '\x7B' :: (layout.lineBreak (depth + 1) ++
      manyText layout depth '\x7D' (entryText layout (depth + 1)) e es rest) := by
  simp only [chars, entryChars_eq, manyText, entryText, List.append_assoc, List.cons_append,
    List.nil_append]

end Layouts

section Many

variable {α : Type} {reader : List Char → Option (α × List Char)} {close : Char} {fuel : Nat}
  {cs tail next rest : List Char} {x : α} {xs : List α}

theorem readMany_last (hx : reader cs = some (x, tail)) (hclose : close ≠ ',')
    (htail : skipSpace tail = close :: rest) :
    readMany reader close (fuel + 1) cs = some ([x], rest) := by
  simp only [readMany, hx, Option.bind_eq_bind, Option.bind_some, htail, if_true]
  rfl

theorem readMany_comma (hx : reader cs = some (x, tail)) (htail : skipSpace tail = ',' :: next)
    (hnext : readMany reader close fuel next = some (xs, rest)) :
    readMany reader close (fuel + 1) cs = some (x :: xs, rest) := by
  simp only [readMany, hx, Option.bind_eq_bind, Option.bind_some, htail, hnext]
  rfl

theorem readMany_gap {gap : List Char} (hgap : ∀ cs, reader (gap ++ cs) = reader cs)
    (cs : List Char) : readMany reader close fuel (gap ++ cs) = readMany reader close fuel cs := by
  cases fuel with
  | zero => rfl
  | succ fuel => rw [readMany, readMany, hgap]

/-- Things that are read back one by one are read back together, up to the character that closes
them. -/
theorem readMany_text (layout : Layout) (depth : Nat) {text : α → List Char}
    (hclose : close ∈ [']', '\x7D']) (rest : List Char)
    (hgap : ∀ cs, reader (layout.lineBreak (depth + 1) ++ cs) = reader cs)
    (h : ∀ y ∈ x :: xs, ∀ tail, Ends tail → reader (text y ++ tail) = some (y, tail))
    (hfuel : xs.length < fuel) :
    readMany reader close fuel (manyText layout depth close text x xs rest) =
      some (x :: xs, rest) := by
  have hends : close ∈ [',', ']', '\x7D', '\n'] ∧ isSpace close = false ∧ close ≠ ',' := by
    simp only [List.mem_cons, List.not_mem_nil, or_false] at hclose
    rcases hclose with rfl | rfl <;> decide
  obtain ⟨hmem, hblank, hcomma⟩ := hends
  induction xs generalizing x fuel with
  | nil =>
    obtain ⟨fuel, rfl⟩ := Nat.exists_eq_succ_of_ne_zero (Nat.ne_zero_of_lt hfuel)
    have hclosing : skipSpace (layout.lineBreak depth ++ close :: rest) = close :: rest := by
      rw [skipSpace_append (isSpace_of_mem_lineBreak layout depth), skipSpace_cons hblank]
    exact readMany_last (h x List.mem_cons_self _ (ends_lineBreak layout depth hmem rest)) hcomma
      hclosing
  | cons y ys ih =>
    obtain ⟨fuel, rfl⟩ := Nat.exists_eq_succ_of_ne_zero (Nat.ne_zero_of_lt hfuel)
    obtain ⟨hx, hys⟩ := List.forall_mem_cons.1 h
    have hnext := ih hys (Nat.lt_of_succ_lt_succ hfuel)
    rw [← readMany_gap hgap] at hnext
    rw [manyText, List.flatMap_cons, List.append_assoc, List.cons_append, List.append_assoc]
    exact readMany_comma (hx _ (ends_cons (by decide) _)) (skipSpace_cons rfl _) hnext

end Many

/-! ### Composites -/

/-- The value is read back from its text, up to where its text ends. -/
def ReadsBack (reader : List Char → Option (Value × List Char)) (layout : Layout) (depth : Nat)
    (v : Value) : Prop :=
  ∀ rest, Ends rest → reader (chars layout depth v ++ rest) = some (v, rest)

/-- The text of a scalar starts with a character that is no blank and no bracket. -/
theorem exists_chars_eq_of_scalar (layout : Layout) (depth : Nat) {v : Value}
    (hv : v.isComposite = false) (hfree : v.floatFree = true) :
    ∃ c cs, chars layout depth v = c :: cs ∧
      isSpace c = false ∧ c ≠ ']' ∧ c ≠ '[' ∧ c ≠ '\x7B' := by
  cases v with
  | null => exact ⟨'n', _, rfl, by decide⟩
  | bool b => cases b <;> exact ⟨_, _, rfl, by decide⟩
  | int n =>
    obtain ⟨c, cs, hcs, hc⟩ := exists_writeInt64_eq n
    refine ⟨c, cs, hcs, ?_⟩
    rcases hc with rfl | hdigit
    · decide
    · exact Decimal.forall_of_isDigit hdigit
        (fun c => isSpace c = false ∧ c ≠ ']' ∧ c ≠ '[' ∧ c ≠ '\x7B') (by decide)
  | float x => cases hfree
  | string s => exact ⟨'"', _, rfl, by decide⟩
  | sequence xs => cases hv
  | mapping es => cases hv

theorem exists_chars_eq (layout : Layout) (depth : Nat) {v : Value} (hfree : v.floatFree = true) :
    ∃ c cs, chars layout depth v = c :: cs ∧ isSpace c = false ∧ c ≠ ']' := by
  by_cases hv : v.isComposite = false
  · obtain ⟨c, cs, hcs, hblank, hbracket, -⟩ := exists_chars_eq_of_scalar layout depth hv hfree
    exact ⟨c, cs, hcs, hblank, hbracket⟩
  · cases v with
    | sequence xs => cases xs <;> exact ⟨'[', _, rfl, by decide⟩
    | mapping es => rcases es with _ | ⟨⟨name, x⟩, es⟩ <;> exact ⟨'\x7B', _, rfl, by decide⟩
    | _ => exact absurd rfl hv

section Composites

variable {reader : List Char → Option (Value × List Char)} {layout : Layout} {depth : Nat}
  {rest : List Char}

theorem reader_lineBreak (hskip : ∀ cs, reader (skipSpace cs) = reader cs) (cs : List Char) :
    reader (layout.lineBreak depth ++ cs) = reader cs := by
  rw [← hskip, skipSpace_append (isSpace_of_mem_lineBreak layout depth), hskip]

theorem readEntry_text (hskip : ∀ cs, reader (skipSpace cs) = reader cs) {e : String × Value}
    (he : ReadsBack reader layout depth e.2) (hrest : Ends rest) :
    readEntry reader (entryText layout depth e ++ rest) = some (e, rest) := by
  obtain ⟨gap, hcolon, hgap⟩ := exists_colon_eq layout
  have hcontent : reader (gap ++ (chars layout depth e.2 ++ rest)) = some (e.2, rest) := by
    rw [← hskip, skipSpace_append hgap, hskip, he rest hrest]
  have htext : entryText layout depth e ++ rest =
      '"' :: (e.1.toList.flatMap quotedChar ++
        '"' :: ':' :: (gap ++ (chars layout depth e.2 ++ rest))) := by
    simp only [entryText, quoted, hcolon, List.append_assoc, List.cons_append, List.nil_append]
  have hblank : isSpace ':' = false := rfl
  rw [htext, readEntry, skipSpace_cons rfl]
  simp only [readQuoted_quoted, Option.bind_eq_bind, Option.bind_some, skipSpace_cons hblank,
    hcontent, String.ofList_toList]
  rfl

/-- Items that are read back make a sequence that is read back. -/
theorem readSequence_chars (hskip : ∀ cs, reader (skipSpace cs) = reader cs) {xs : List Value}
    (hfree : ∀ x ∈ xs, x.floatFree = true)
    (h : ∀ x ∈ xs, ReadsBack reader layout (depth + 1) x) (rest : List Char) :
    ∃ cs, chars layout depth (.sequence xs) ++ rest = '[' :: cs ∧
      readSequence reader cs = some (.sequence xs, rest) := by
  cases xs with
  | nil => exact ⟨']' :: rest, rfl, rfl⟩
  | cons x xs =>
    refine ⟨_, chars_sequence_cons layout depth x xs rest, ?_⟩
    have hclose : ']' ∈ [']', '\x7D'] := List.mem_cons_self
    have hread := readMany_text layout depth hclose rest (reader_lineBreak hskip) h
      (length_lt_manyText layout depth ']' (chars layout (depth + 1)) x xs rest)
    obtain ⟨c, cs, hcs, hblank, hbracket⟩ :=
      exists_chars_eq layout (depth + 1) (hfree x List.mem_cons_self)
    obtain ⟨tail, htail⟩ : ∃ tail,
        manyText layout depth ']' (chars layout (depth + 1)) x xs rest = c :: tail :=
      ⟨_, by rw [manyText, hcs, List.cons_append]⟩
    rw [htail] at hread ⊢
    rw [readSequence, skipSpace_append (isSpace_of_mem_lineBreak layout (depth + 1)),
      skipSpace_cons hblank]
    split
    · next heq => exact absurd (List.cons.inj heq).1 hbracket
    · rw [hread]
      rfl

/-- Entries that are read back make a mapping that is read back. -/
theorem readMapping_chars (hskip : ∀ cs, reader (skipSpace cs) = reader cs) {es : Entries Value}
    (hnames : es.names.Nodup) (h : ∀ e ∈ es, ReadsBack reader layout (depth + 1) e.2)
    (rest : List Char) :
    ∃ cs, chars layout depth (.mapping es) ++ rest = '\x7B' :: cs ∧
      readMapping reader cs = some (.mapping es, rest) := by
  cases es with
  | nil => exact ⟨'\x7D' :: rest, rfl, rfl⟩
  | cons e es =>
    refine ⟨_, chars_mapping_cons layout depth e es rest, ?_⟩
    have hgap (cs : List Char) :
        readEntry reader (layout.lineBreak (depth + 1) ++ cs) = readEntry reader cs := by
      rw [readEntry, readEntry, skipSpace_append (isSpace_of_mem_lineBreak layout (depth + 1))]
    have hclose : '\x7D' ∈ [']', '\x7D'] := List.mem_cons_of_mem _ List.mem_cons_self
    have hread := readMany_text layout depth hclose rest hgap
      (fun e he _ => readEntry_text hskip (h e he))
      (length_lt_manyText layout depth '\x7D' (entryText layout (depth + 1)) e es rest)
    obtain ⟨tail, htail⟩ : ∃ tail,
        manyText layout depth '\x7D' (entryText layout (depth + 1)) e es rest = '"' :: tail :=
      ⟨_, by rw [manyText, entryText, quoted]; rfl⟩
    rw [htail] at hread ⊢
    rw [readMapping, skipSpace_append (isSpace_of_mem_lineBreak layout (depth + 1)),
      skipSpace_cons rfl]
    split
    · next heq => exact absurd (List.cons.inj heq).1 (by decide)
    · rw [hread]
      simp only [Option.map_some, Entries.ofList_of_nodup hnames]

end Composites

/-! ### Values -/

section Read

variable {layout : Layout} {depth levels : Nat} {rest : List Char} {v : Value}

/-- A scalar without a float is read back. -/
theorem readScalar_chars (hv : v.isComposite = false) (hfree : v.floatFree = true)
    (hrest : Ends rest) : readScalar (chars layout depth v ++ rest) = some (v, rest) := by
  cases v with
  | null => rfl
  | bool b => cases b <;> rfl
  | int n =>
    obtain ⟨c, cs, hcs, hc⟩ := exists_writeInt64_eq n
    have hother : c ≠ 'n' ∧ c ≠ 't' ∧ c ≠ 'f' ∧ c ≠ '"' := by
      rcases hc with rfl | hdigit
      · decide
      · exact Decimal.forall_of_isDigit hdigit
          (fun c => c ≠ 'n' ∧ c ≠ 't' ∧ c ≠ 'f' ∧ c ≠ '"') (by decide)
    have hread := readNumber_writeInt64 n hrest
    rw [chars, ← hread, hcs, List.cons_append, readScalar] <;> simp [hother]
  | float x => cases hfree
  | string s =>
    have htext : chars layout depth (.string s) ++ rest =
        '"' :: (s.toList.flatMap quotedChar ++ '"' :: rest) := by
      simp only [chars, quoted, List.append_assoc, List.cons_append, List.nil_append]
    rw [htext, readScalar, readQuoted_quoted]
    simp only [Option.map_some, String.ofList_toList]
  | sequence xs => cases hv
  | mapping es => cases hv

/-- With levels left or without, a scalar is read in the same way. -/
theorem readValue_of_scalar (hv : v.isComposite = false) (hfree : v.floatFree = true) :
    ReadsBack (readValue levels) layout depth v := by
  intro rest hrest
  obtain ⟨c, cs, hcs, hblank, -, hbracket, hbrace⟩ :=
    exists_chars_eq_of_scalar layout depth hv hfree
  have hscalar : readScalar (chars layout depth v ++ rest) = some (v, rest) :=
    readScalar_chars hv hfree hrest
  rw [hcs, List.cons_append] at hscalar ⊢
  cases levels with
  | zero => rw [readValue, skipSpace_cons hblank, hscalar]
  | succ levels =>
    rw [readValue, skipSpace_cons hblank]
    split
    · next heq => exact absurd (List.cons.inj heq).1 hbracket
    · next heq => exact absurd (List.cons.inj heq).1 hbrace
    · exact hscalar

/-- A value without floats that nests no deeper than the levels that are left is read back. -/
theorem readValue_chars (hnames : v.Distinct) (hfree : v.floatFree = true)
    (hdepth : v.depth ≤ levels) : ReadsBack (readValue levels) layout depth v := by
  induction levels generalizing v depth with
  | zero =>
    refine readValue_of_scalar ?_ hfree
    cases v <;> first | rfl | exact absurd hdepth (Nat.not_succ_le_zero _)
  | succ levels ih =>
    cases v with
    | sequence xs =>
      intro rest hrest
      have hitems : ∀ x ∈ xs, ReadsBack (readValue levels) layout (depth + 1) x := fun x hx =>
        ih ((Value.distinct_sequence xs).1 hnames x hx) (Value.floatFree_sequence.1 hfree x hx)
          (Value.depth_sequence_le_iff.1 hdepth x hx)
      obtain ⟨cs, hcs, hread⟩ := readSequence_chars (readValue_skipSpace levels)
        (Value.floatFree_sequence.1 hfree) hitems rest
      rw [hcs, readValue, skipSpace_cons rfl]
      exact hread
    | mapping es =>
      intro rest hrest
      obtain ⟨hnodup, hcontents⟩ := (Value.distinct_mapping es).1 hnames
      have hentries : ∀ e ∈ es, ReadsBack (readValue levels) layout (depth + 1) e.2 := fun e he =>
        ih (hcontents e he) (Value.floatFree_mapping.1 hfree e he)
          (Value.depth_mapping_le_iff.1 hdepth e he)
      obtain ⟨cs, hcs, hread⟩ := readMapping_chars (readValue_skipSpace levels) hnodup hentries rest
      rw [hcs, readValue, skipSpace_cons rfl]
      exact hread
    | _ => exact readValue_of_scalar rfl hfree

/-- **JSON keeps values.**  A value without floats that is written as JSON, in either layout, is read
back as it was exactly if its composites nest at most 127 deep. -/
theorem read_write (layout : Layout) {v : Value} (hnames : v.Distinct)
    (hfree : v.floatFree = true) : read (write layout v) = some v ↔ v.depth ≤ 127 := by
  refine ⟨fun h => depth_le_of_read h, fun hdepth => ?_⟩
  have hread : readValue 127 (chars layout 0 v ++ []) = some (v, []) :=
    readValue_chars hnames hfree hdepth [] ends_nil
  rw [List.append_nil] at hread
  rw [read, write, String.toList_ofList, nestingLimit, hread]
  rfl

/-- Escapes in names and texts, the least integer, and composites without content. -/
theorem read_write_escapes :
    (Value.mapping [("\"\\\n\x01é", .int Int64.minValue),
      ("", .sequence [.mapping [], .string "\x7F/\t", .sequence []])]).Distinct ∧
    (Value.mapping [("\"\\\n\x01é", .int Int64.minValue),
      ("", .sequence [.mapping [], .string "\x7F/\t", .sequence []])]).floatFree = true ∧
    read (write .pretty (.mapping [("\"\\\n\x01é", .int Int64.minValue),
      ("", .sequence [.mapping [], .string "\x7F/\t", .sequence []])])) =
        some (.mapping [("\"\\\n\x01é", .int Int64.minValue),
          ("", .sequence [.mapping [], .string "\x7F/\t", .sequence []])]) := by
  refine ⟨by decide, rfl, ?_⟩
  exact (read_write .pretty (by decide) rfl).2 (by decide)

end Read

end Json

end PathBag
