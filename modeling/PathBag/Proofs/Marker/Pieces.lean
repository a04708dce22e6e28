import PathBag.Marker.Piece

/-!
# Markers in text, said once more

`Spells form m`: the text `m` is one marker of a form, from its first brace to its last.  Cutting a
text finds a marker exactly if some part of the text is spelled so (`occursIn_iff`), a text without
markers is cut into its characters (`pieces_of_not_occursIn`), and a text that is cut into one
marker and nothing else is spelled as one (`spells_of_pieces`).

`Form.write form body` is the marker of a form as it is usually written.  If there are no braces in
its body, it is one piece, whatever follows it (`pieces_write_append`).
-/

namespace PathBag.Marker

open Text

/-- The texts that are one marker of a form. -/
inductive Spells : Form → List Char → Prop
  | reference {body : List Char} : body ≠ [] → (∀ c ∈ body, isBrace c = false) →
      Spells .reference ('$' :: '\x7B' :: (body ++ ['\x7D']))
  | placeholder {w w' : Char} {body : List Char} : isBlank w = true → body ≠ [] →
      isBlank w' = true →
      Spells .placeholder ('\x7B' :: '\x7B' :: w :: (body ++ [w', '\x7D', '\x7D']))
  | code {w w' : Char} {body : List Char} : isBlank w = true → body ≠ [] → isBlank w' = true →
      Spells .code ('\x7B' :: '%' :: w :: (body ++ [w', '%', '\x7D']))

/-! ### A marker at the front -/

theorem takeReference_eq_some_iff {cs body rest : List Char} :
    takeReference cs = some (body, rest) ↔
      cs = '$' :: '\x7B' :: (body ++ '\x7D' :: rest) ∧ body ≠ [] ∧
        ∀ c ∈ body, isBrace c = false := by
  constructor
  · intro h
    unfold takeReference at h
    split at h
    · next cs' =>
      split at h
      · next b body' rest' htake hdrop =>
        obtain ⟨rfl, rfl⟩ : b :: body' = body ∧ rest' = rest := by simpa using h
        have happ := List.takeWhile_append_dropWhile (p := (!isBrace ·)) (l := cs')
        rw [htake, hdrop] at happ
        have hall := List.all_takeWhile (p := (!isBrace ·)) (l := cs')
        rw [htake] at hall
        exact ⟨by rw [happ], by simp, fun c hc => by simpa using List.all_eq_true.1 hall c hc⟩
      · cases h
    · cases h
  · rintro ⟨rfl, hne, hbody⟩
    have hall : ∀ c ∈ body, (!isBrace c) = true := fun c hc => by simp [hbody c hc]
    obtain ⟨b, body, rfl⟩ := List.exists_cons_of_ne_nil hne
    have htake : List.takeWhile (!isBrace ·) (b :: body ++ '\x7D' :: rest) = b :: body := by
      rw [List.takeWhile_append_of_pos hall]
      simp [isBrace]
    have hdrop : List.dropWhile (!isBrace ·) (b :: body ++ '\x7D' :: rest) = '\x7D' :: rest := by
      rw [List.dropWhile_append_of_pos hall]
      simp [isBrace]
    simp only [takeReference, htake, hdrop]

theorem takeClose_eq_some_iff {mark : Char} {cs rest : List Char} :
    takeClose mark cs = some rest ↔ ∃ w, cs = w :: mark :: '\x7D' :: rest ∧ isBlank w = true := by
  unfold takeClose
  split
  · next w m rest' =>
    simp only [Option.ite_none_right_eq_some, Option.some.injEq, List.cons.injEq]
    grind
  · next h =>
    simp only [reduceCtorEq, false_iff, not_exists, not_and]
    rintro w rfl
    exact absurd rfl (h w mark rest)

theorem eq_of_takeBody {mark : Char} {cs body rest : List Char}
    (h : takeBody mark cs = some (body, rest)) :
    ∃ w, cs = body ++ w :: mark :: '\x7D' :: rest ∧ isBlank w = true := by
  induction cs generalizing body with
  | nil => cases h
  | cons c cs ih =>
    unfold takeBody at h
    split at h
    · next rest' hclose =>
      cases h
      exact takeClose_eq_some_iff.1 hclose
    · obtain ⟨⟨body', rest'⟩, hbody, heq⟩ := Option.map_eq_some_iff.1 h
      cases heq
      obtain ⟨w, rfl, hblank⟩ := ih hbody
      exact ⟨w, rfl, hblank⟩

theorem takeBody_isSome_iff {mark : Char} {cs : List Char} :
    (takeBody mark cs).isSome = true ↔
      ∃ body w rest, cs = body ++ w :: mark :: '\x7D' :: rest ∧ isBlank w = true := by
  constructor
  · intro h
    obtain ⟨⟨body, rest⟩, hbody⟩ := Option.isSome_iff_exists.1 h
    obtain ⟨w, hcs, hblank⟩ := eq_of_takeBody hbody
    exact ⟨body, w, rest, hcs, hblank⟩
  · rintro ⟨body, w, rest, rfl, hblank⟩
    induction body with
    | nil => simp only [List.nil_append, takeBody, takeClose_eq_some_iff.2 ⟨w, rfl, hblank⟩]; rfl
    | cons b body ih =>
      rw [List.cons_append]
      unfold takeBody
      split
      · rfl
      · rw [Option.isSome_map, ih]

theorem eq_of_takeSpaced {first last : Char} {cs body rest : List Char}
    (h : takeSpaced first last cs = some (body, rest)) :
    ∃ w w', cs = '\x7B' :: first :: w :: (body ++ w' :: last :: '\x7D' :: rest) ∧
      isBlank w = true ∧ body ≠ [] ∧ isBlank w' = true := by
  unfold takeSpaced at h
  split at h
  · next m w c cs =>
    split at h
    · next hm =>
      obtain ⟨rfl, hw⟩ := hm
      obtain ⟨⟨body', rest'⟩, hbody, heq⟩ := Option.map_eq_some_iff.1 h
      cases heq
      obtain ⟨w', rfl, hw'⟩ := eq_of_takeBody hbody
      exact ⟨w, w', rfl, hw, by simp, hw'⟩
    · cases h
  · cases h

theorem takeSpaced_isSome_iff {first last : Char} {cs : List Char} :
    (takeSpaced first last cs).isSome = true ↔
      ∃ w body w' rest, cs = '\x7B' :: first :: w :: (body ++ w' :: last :: '\x7D' :: rest) ∧
        isBlank w = true ∧ body ≠ [] ∧ isBlank w' = true := by
  constructor
  · intro h
    obtain ⟨⟨body, rest⟩, htake⟩ := Option.isSome_iff_exists.1 h
    obtain ⟨w, w', hcs, hw, hne, hw'⟩ := eq_of_takeSpaced htake
    exact ⟨w, body, w', rest, hcs, hw, hne, hw'⟩
  · rintro ⟨w, body, w', rest, rfl, hw, hne, hw'⟩
    obtain ⟨c, body, rfl⟩ := List.exists_cons_of_ne_nil hne
    simp only [List.cons_append, takeSpaced, hw, and_self, if_true, Option.isSome_map]
    exact takeBody_isSome_iff.2 ⟨body, w', rest, rfl, hw'⟩

theorem spells_of_take {form : Form} {cs body rest : List Char}
    (h : form.take cs = some (body, rest)) : ∃ m, Spells form m ∧ cs = m ++ rest := by
  cases form with
  | reference =>
    obtain ⟨rfl, hne, hbody⟩ := takeReference_eq_some_iff.1 h
    exact ⟨_, .reference hne hbody, by simp⟩
  | placeholder =>
    obtain ⟨w, w', rfl, hw, hne, hw'⟩ := eq_of_takeSpaced h
    exact ⟨_, .placeholder hw hne hw', by simp⟩
  | code =>
    obtain ⟨w, w', rfl, hw, hne, hw'⟩ := eq_of_takeSpaced h
    exact ⟨_, .code hw hne hw', by simp⟩

theorem take_isSome_iff {form : Form} {cs : List Char} :
    (form.take cs).isSome = true ↔ ∃ m, Spells form m ∧ m <+: cs := by
  constructor
  · intro h
    obtain ⟨⟨body, rest⟩, htake⟩ := Option.isSome_iff_exists.1 h
    obtain ⟨m, hm, rfl⟩ := spells_of_take htake
    exact ⟨m, hm, List.prefix_append m rest⟩
  · rintro ⟨m, hm, rest, rfl⟩
    cases hm with
    | @reference body hne hbody =>
      have htake : takeReference ('$' :: '{' :: (body ++ ['}'] ++ rest)) = some (body, rest) :=
        takeReference_eq_some_iff.2 ⟨by simp, hne, hbody⟩
      exact Option.isSome_of_eq_some htake
    | placeholder hw hne hw' =>
      exact takeSpaced_isSome_iff.2 ⟨_, _, _, rest, by simp, hw, hne, hw'⟩
    | code hw hne hw' => exact takeSpaced_isSome_iff.2 ⟨_, _, _, rest, by simp, hw, hne, hw'⟩

/-! ### Cutting -/

theorem cut_append (form : Form) (front cs : List Char) :
    form.cut front.length (front ++ cs) = form.pieces cs := by
  induction front with
  | nil => rfl
  | cons c front ih => exact ih

theorem pieces_of_take_eq_none {form : Form} {c : Char} {cs : List Char}
    (h : form.take (c :: cs) = none) : form.pieces (c :: cs) = .plain c :: form.pieces cs := by
  simp only [Form.pieces, Form.cut, h]

/-- A marker at the front is the first piece, and what follows it is cut on its own. -/
theorem pieces_of_take {form : Form} {m body rest : List Char} (hm : m ≠ [])
    (h : form.take (m ++ rest) = some (body, rest)) :
    form.pieces (m ++ rest) = .marker body :: form.pieces rest := by
  obtain ⟨c, m, rfl⟩ := List.exists_cons_of_ne_nil hm
  have hskip : (m ++ rest).length - rest.length = m.length := by simp
  rw [List.cons_append] at h ⊢
  simp only [Form.pieces, Form.cut, h, hskip]
  exact congrArg _ (cut_append form m rest)

/-! ### Markers anywhere -/

theorem occursIn_nil (form : Form) : form.occursIn [] = false := by
  simp [Form.occursIn, Form.pieces, Form.cut]

theorem occursIn_cons (form : Form) (c : Char) (cs : List Char) :
    form.occursIn (c :: cs) = ((form.take (c :: cs)).isSome || form.occursIn cs) := by
  simp only [Form.occursIn, Form.pieces, Form.cut]
  cases form.take (c :: cs) with
  | some m => simp [Piece.isMarker]
  | none => simp [Piece.isMarker]

theorem not_spells_nil (form : Form) : ¬ Spells form [] := fun h => by cases h

/-- **Recognition is exact**: a text holds a marker of a form if a part of it is spelled so. -/
theorem occursIn_iff {form : Form} {cs : List Char} :
    form.occursIn cs = true ↔ ∃ m, Spells form m ∧ m <:+: cs := by
  induction cs with
  | nil =>
    rw [occursIn_nil]
    simp only [Bool.false_eq_true, false_iff, not_exists, not_and, List.infix_nil]
    rintro m hm rfl
    exact not_spells_nil form hm
  | cons c cs ih =>
    rw [occursIn_cons, Bool.or_eq_true, ih, take_isSome_iff]
    simp only [List.infix_cons_iff]
    constructor
    · rintro (⟨m, hm, h⟩ | ⟨m, hm, h⟩)
      · exact ⟨m, hm, .inl h⟩
      · exact ⟨m, hm, .inr h⟩
    · rintro ⟨m, hm, h | h⟩
      · exact .inl ⟨m, hm, h⟩
      · exact .inr ⟨m, hm, h⟩

theorem isExpression_iff {text : String} :
    isExpression text = true ↔ ∃ form m, Spells form m ∧ m <:+: text.toList := by
  simp only [isExpression, Bool.or_eq_true, occursIn_iff]
  constructor
  · rintro ((⟨m, hm⟩ | ⟨m, hm⟩) | ⟨m, hm⟩)
    · exact ⟨.reference, m, hm⟩
    · exact ⟨.placeholder, m, hm⟩
    · exact ⟨.code, m, hm⟩
  · rintro ⟨form, m, hm⟩
    cases form with
    | reference => exact .inl (.inl ⟨m, hm⟩)
    | placeholder => exact .inl (.inr ⟨m, hm⟩)
    | code => exact .inr ⟨m, hm⟩

/-- The characters that every marker of a form starts with. -/
def Form.opening : Form → List Char
  | reference => ['$', '{']
  | placeholder => ['{', '{']
  | code => ['{', '%']

/-- To look for its opening first never misses a marker. -/
theorem opening_of_occursIn {form : Form} {cs : List Char} (h : form.occursIn cs = true) :
    form.opening <:+: cs := by
  obtain ⟨m, hm, hin⟩ := occursIn_iff.1 h
  have hprefix : form.opening <+: m := by
    cases hm with
    | reference | placeholder | code => exact ⟨_, rfl⟩
  exact hprefix.isInfix.trans hin

theorem pieces_of_not_occursIn {form : Form} {cs : List Char} (h : form.occursIn cs = false) :
    form.pieces cs = cs.map Piece.plain := by
  induction cs with
  | nil => rfl
  | cons c cs ih =>
    rw [occursIn_cons, Bool.or_eq_false_iff] at h
    obtain ⟨htake, hcs⟩ := h
    rw [Option.isSome_eq_false_iff, Option.isNone_iff_eq_none] at htake
    rw [pieces_of_take_eq_none htake, ih hcs, List.map_cons]

theorem isExpression_eq_false_iff {text : String} :
    isExpression text = false ↔ ∀ form : Form, form.occursIn text.toList = false := by
  rw [isExpression, Bool.or_eq_false_iff, Bool.or_eq_false_iff]
  refine ⟨fun ⟨⟨hr, hp⟩, hc⟩ form => ?_, fun h => ⟨⟨h _, h _⟩, h _⟩⟩
  cases form with
  | reference => exact hr
  | placeholder => exact hp
  | code => exact hc

/-- A part of a text without markers has none. -/
theorem isExpression_eq_false_of_part {part text : String} (h : part.toList <:+: text.toList)
    (ht : isExpression text = false) : isExpression part = false := by
  rw [isExpression_eq_false_iff] at ht ⊢
  intro form
  refine Bool.eq_false_iff.2 fun hocc => ?_
  obtain ⟨m, hm, hin⟩ := occursIn_iff.1 hocc
  exact Bool.eq_false_iff.1 (ht form) (occursIn_iff.2 ⟨m, hm, hin.trans h⟩)

theorem brace_mem_of_spells {form : Form} {m : List Char} (h : Spells form m) : '{' ∈ m := by
  cases h <;> simp

theorem head?_of_spells {form : Form} {m : List Char} (h : Spells form m)
    (hform : form ≠ .reference) : m.head? = some '{' := by
  cases h with
  | reference => exact absurd rfl hform
  | placeholder | code => rfl

theorem getLast?_of_spells {form : Form} {m : List Char} (h : Spells form m) :
    m.getLast? = some '}' := by
  cases h <;> simp [List.getLast?_cons]

theorem occursIn_of_no_brace (form : Form) {cs : List Char} (h : '{' ∉ cs) :
    form.occursIn cs = false := by
  refine Bool.eq_false_iff.2 fun hocc => ?_
  obtain ⟨m, hm, hin⟩ := occursIn_iff.1 hocc
  exact h (hin.subset (brace_mem_of_spells hm))

theorem isExpression_eq_false_of_no_brace {text : String} (h : '{' ∉ text.toList) :
    isExpression text = false :=
  isExpression_eq_false_iff.2 fun form => occursIn_of_no_brace form h

/-! ### One marker and nothing else -/

theorem pieces_eq_nil_iff {form : Form} {cs : List Char} : form.pieces cs = [] ↔ cs = [] := by
  cases cs with
  | nil => simp [Form.pieces, Form.cut]
  | cons c cs =>
    simp only [Form.pieces, Form.cut]
    split <;> simp

/-- A text that is one piece, a marker, is spelled as one. -/
theorem spells_of_pieces {form : Form} {cs body : List Char}
    (h : form.pieces cs = [.marker body]) : Spells form cs := by
  cases cs with
  | nil => cases h
  | cons c cs =>
    cases htake : form.take (c :: cs) with
    | none =>
      rw [pieces_of_take_eq_none htake] at h
      cases h
    | some taken =>
      obtain ⟨body', rest⟩ := taken
      obtain ⟨m, hm, hcs⟩ := spells_of_take htake
      have hne : m ≠ [] := by
        rintro rfl
        exact not_spells_nil form hm
      rw [hcs] at htake h ⊢
      rw [pieces_of_take hne htake] at h
      obtain rfl := pieces_eq_nil_iff.1 (List.cons.inj h).2
      rwa [List.append_nil]

/-! ### Markers as they are written -/

/-- Text without braces. -/
def Plain (cs : List Char) : Prop := ∀ c ∈ cs, isBrace c = false

instance (cs : List Char) : Decidable (Plain cs) :=
  decidable_of_iff (cs.all (!isBrace ·) = true) (by simp [Plain])

/-- The marker of a form with this body; the blanks in it are spaces. -/
def Form.write : Form → List Char → List Char
  | reference, body => '$' :: '{' :: (body ++ ['}'])
  | placeholder, body => '{' :: '{' :: ' ' :: (body ++ [' ', '}', '}'])
  | code, body => '{' :: '%' :: ' ' :: (body ++ [' ', '%', '}'])

/-- A body that no form but its own marker's end cuts short: there are no braces in it and, where
blanks belong to the form, no blanks. -/
structure Form.Holds (form : Form) (body : List Char) : Prop where
  ne_nil : body ≠ []
  plain : Plain body
  no_blank : form ≠ .reference → ∀ c ∈ body, isBlank c = false

theorem takeBody_of_plain {mark w : Char} {body rest : List Char} (hbody : Plain body)
    (hw : isBlank w = true) :
    takeBody mark (body ++ w :: mark :: '}' :: rest) = some (body, rest) := by
  induction body with
  | nil =>
    have hclose : takeClose mark (w :: mark :: '}' :: rest) = some rest :=
      takeClose_eq_some_iff.2 ⟨w, rfl, hw⟩
    simp only [List.nil_append, takeBody, hclose]
  | cons c body ih =>
    obtain ⟨-, hbody⟩ := List.forall_mem_cons.1 hbody
    -- a close ends with a brace, and the first one comes too late for a close that starts at `c`
    have hclose : takeClose mark (c :: (body ++ w :: mark :: '}' :: rest)) = none := by
      refine Option.eq_none_iff_forall_ne_some.2 fun rest' h => ?_
      obtain ⟨w', hcs, -⟩ := takeClose_eq_some_iff.1 h
      have hw' : w ≠ '}' := by
        rintro rfl
        exact absurd hw (by decide)
      match body, hbody with
      | [], _ => simp_all
      | [b], _ => simp_all
      | b :: b' :: body, hbody =>
        obtain rfl : b' = '}' := by simp_all
        exact absurd (hbody '}' (by simp)) (by decide)
    simp only [List.cons_append, takeBody, hclose, ih hbody, Option.map_some]

theorem takeSpaced_write (first last : Char) {body : List Char} (hne : body ≠ [])
    (hbody : Plain body) (rest : List Char) :
    takeSpaced first last ('{' :: first :: ' ' :: (body ++ ' ' :: last :: '}' :: rest)) =
      some (body, rest) := by
  obtain ⟨c, body, rfl⟩ := List.exists_cons_of_ne_nil hne
  obtain ⟨-, hbody⟩ := List.forall_mem_cons.1 hbody
  have hblank : isBlank ' ' = true := by decide
  simp only [List.cons_append, takeSpaced, hblank, and_self, if_true,
    takeBody_of_plain hbody hblank, Option.map_some]

section Write

variable {form : Form} {body : List Char} (hne : body ≠ []) (hbody : Plain body)

include hne hbody

theorem take_write (rest : List Char) :
    form.take (form.write body ++ rest) = some (body, rest) := by
  cases form with
  | reference =>
    show takeReference ('$' :: '{' :: (body ++ ['}'] ++ rest)) = some (body, rest)
    exact takeReference_eq_some_iff.2 ⟨by simp, hne, hbody⟩
  | placeholder =>
    have htake := takeSpaced_write '{' '}' hne hbody rest
    simpa [Form.write, Form.take] using htake
  | code =>
    have htake := takeSpaced_write '%' '%' hne hbody rest
    simpa [Form.write, Form.take] using htake

/-- A written marker is one piece of whatever text starts with it. -/
theorem pieces_write_append (rest : List Char) :
    form.pieces (form.write body ++ rest) = .marker body :: form.pieces rest := by
  refine pieces_of_take ?_ (take_write hne hbody rest)
  cases form <;> simp [Form.write]

theorem pieces_write : form.pieces (form.write body) = [.marker body] := by
  have hpieces : form.pieces (form.write body ++ []) = .marker body :: form.pieces [] :=
    pieces_write_append hne hbody []
  rwa [List.append_nil] at hpieces

end Write

/-- The text of a reference. -/
def referenceText (key : List Char) : String := String.ofList ('$' :: '{' :: (key ++ ['}']))

theorem pieces_reference {key : List Char} (hne : key ≠ []) (hkey : ∀ c ∈ key, isBrace c = false) :
    Form.reference.pieces (referenceText key).toList = [.marker key] := by
  have hpieces : Form.reference.pieces (Form.reference.write key) = [.marker key] :=
    pieces_write hne hkey
  rw [referenceText, String.toList_ofList]
  exact hpieces

end PathBag.Marker
