import PathBag.Proofs.Marker.Texts

/-!
# Markers within text

A template is text without braces that has markers in it.  Written out it is cut into just these
markers and the characters around them (`Template.pieces_write`), and replacing the markers fills
the template with the texts of their values (`Template.substitute_pieces`) or stops at the first
of them that has none (`Template.substitute_pieces_error`).
-/

namespace PathBag.Marker

open Text

/-- Text without braces with markers in it: the text before the first marker, and for each marker
its body and the text after it. -/
structure Template where
  first : List Char
  slots : List (List Char × List Char)
  first_plain : Plain first
  slots_plain : ∀ s ∈ slots, Plain s.2

namespace Template

variable (t : Template)

/-- The bodies of the markers. -/
def bodies : List (List Char) := t.slots.map (·.1)

/-- The text after the last marker. -/
def last : List Char := (t.slots.map (·.2)).getLastD t.first

/-- The text in which `f` says what stands for a marker. -/
def fill (f : List Char → List Char) : List Char := t.first ++ t.slots.flatMap fun s => f s.1 ++ s.2

/-- The text with markers of a form. -/
def write (form : Form) : List Char := t.fill form.write

/-- The text in which each marker has given way to the text of a value. -/
def render (v : List Char → Value) : List Char := t.fill fun body => (v body).render.toList

/-- The pieces of the text, which are the same for every form. -/
def pieces : List Piece :=
  t.first.map .plain ++ t.slots.flatMap fun s => .marker s.1 :: s.2.map .plain

/-! ### Parts of a filled template -/

theorem mem_fill_iff {f : List Char → List Char} {c : Char} :
    c ∈ t.fill f ↔ c ∈ t.first ∨ ∃ s ∈ t.slots, c ∈ f s.1 ∨ c ∈ s.2 := by
  simp [fill]

theorem exists_fill_eq_append_last (f : List Char → List Char) :
    ∃ front, t.fill f = front ++ t.last := by
  rcases List.eq_nil_or_concat t.slots with h | ⟨slots, s, h⟩
  · exact ⟨[], by simp [fill, last, h]⟩
  · exact ⟨t.first ++ (slots.flatMap (fun s => f s.1 ++ s.2) ++ f s.1), by simp [fill, last, h]⟩

theorem last_plain : Plain t.last := by
  have hmem : t.last ∈ t.first :: t.slots.map (·.2) := List.getLastD_mem_cons
  rcases List.mem_cons.1 hmem with h | h
  · rw [h]
    exact t.first_plain
  · obtain ⟨s, hs, heq⟩ := List.mem_map.1 h
    rw [← heq]
    exact t.slots_plain s hs

end Template

/-! ### What stands around markers -/

/-- Text that does not go on with a key after a `$` and its own first brace. -/
def Bounds (rest : List Char) : Prop := ∀ c cs, rest = '{' :: c :: cs → isBrace c = true

theorem bounds_append {chunk rest : List Char} (hchunk : Plain chunk) (hrest : Bounds rest) :
    Bounds (chunk ++ rest) := by
  cases chunk with
  | nil => exact hrest
  | cons b chunk =>
    intro c cs h
    obtain ⟨rfl, -⟩ := List.cons.inj h
    exact absurd (hchunk '{' List.mem_cons_self) (by decide)

/-- Before such text no marker starts at a character that is no brace. -/
theorem take_of_not_brace {form : Form} {c : Char} {cs : List Char} (hc : isBrace c = false)
    (hcs : form = .reference → Bounds cs) : form.take (c :: cs) = none := by
  refine Option.eq_none_iff_forall_ne_some.2 fun taken h => ?_
  obtain ⟨m, hm, hcut⟩ := spells_of_take h
  cases hm with
  | @reference body hne hbody =>
    obtain ⟨b, body, rfl⟩ := List.exists_cons_of_ne_nil hne
    have hb : isBrace b = true := hcs rfl b _ (List.cons.inj hcut).2
    rw [hbody b List.mem_cons_self] at hb
    cases hb
  | placeholder | code =>
    obtain ⟨rfl, -⟩ := List.cons.inj hcut
    exact absurd hc (by decide)

theorem pieces_plain_append {form : Form} {chunk rest : List Char} (hchunk : Plain chunk)
    (hrest : form = .reference → Bounds rest) :
    form.pieces (chunk ++ rest) = chunk.map .plain ++ form.pieces rest := by
  induction chunk with
  | nil => rfl
  | cons c chunk ih =>
    obtain ⟨hc, hchunk⟩ := List.forall_mem_cons.1 hchunk
    have htake : form.take (c :: (chunk ++ rest)) = none :=
      take_of_not_brace hc fun h => bounds_append hchunk (hrest h)
    rw [List.cons_append, pieces_of_take_eq_none htake, ih hchunk, List.map_cons, List.cons_append]

/-- Written references and placeholders bound the text before them. -/
theorem bounds_slots {form : Form} (hform : form ≠ .code) (slots : List (List Char × List Char)) :
    Bounds (slots.flatMap fun s => form.write s.1 ++ s.2) := by
  intro c cs h
  cases slots with
  | nil => cases h
  | cons s slots =>
    cases form with
    | reference => cases h
    | placeholder =>
      obtain ⟨rfl, -⟩ := List.cons.inj (List.cons.inj h).2
      rfl
    | code => exact absurd rfl hform

namespace Template

variable (t : Template)

/-! ### The pieces of a template -/

theorem pieces_slots {form : Form} (hform : form ≠ .code) {slots : List (List Char × List Char)}
    (hslots : ∀ s ∈ slots, form.Holds s.1 ∧ Plain s.2) :
    form.pieces (slots.flatMap fun s => form.write s.1 ++ s.2) =
      slots.flatMap fun s => .marker s.1 :: s.2.map .plain := by
  induction slots with
  | nil => exact pieces_eq_nil_iff.2 rfl
  | cons s slots ih =>
    obtain ⟨⟨hholds, hplain⟩, hslots⟩ := List.forall_mem_cons.1 hslots
    rw [List.flatMap_cons, List.append_assoc, pieces_write_append hholds.ne_nil hholds.plain,
      pieces_plain_append hplain fun _ => bounds_slots hform slots, ih hslots, List.flatMap_cons,
      List.cons_append]

/-- **A written template is cut into its own pieces.** -/
theorem pieces_write {form : Form} (hform : form ≠ .code)
    (hholds : ∀ body ∈ t.bodies, form.Holds body) : form.pieces (t.write form) = t.pieces := by
  have hslots : ∀ s ∈ t.slots, form.Holds s.1 ∧ Plain s.2 := fun s hs =>
    ⟨hholds s.1 (List.mem_map_of_mem hs), t.slots_plain s hs⟩
  rw [write, fill, pieces_plain_append t.first_plain fun _ => bounds_slots hform t.slots,
    pieces_slots hform hslots, pieces]

/-- A template is one marker when there is nothing around it. -/
theorem pieces_eq_marker_iff {body : List Char} :
    t.pieces = [.marker body] ↔ t.first = [] ∧ t.slots = [(body, [])] := by
  constructor
  · intro h
    rw [pieces] at h
    cases hfirst : t.first with
    | cons c cs =>
      rw [hfirst] at h
      cases h
    | nil =>
      cases hslots : t.slots with
      | nil =>
        rw [hfirst, hslots] at h
        cases h
      | cons s slots =>
        obtain ⟨b, chunk⟩ := s
        rw [hfirst, hslots, List.flatMap_cons, List.map_nil, List.nil_append,
          List.cons_append] at h
        obtain ⟨hb, hrest⟩ := List.cons.inj h
        obtain ⟨hchunk, hnone⟩ := List.append_eq_nil_iff.1 hrest
        obtain rfl := List.map_eq_nil_iff.1 hchunk
        obtain rfl : slots = [] := by
          refine List.eq_nil_iff_forall_not_mem.2 fun s hs => ?_
          exact absurd (List.flatMap_eq_nil_iff.1 hnone s hs) (List.cons_ne_nil _ _)
        cases hb
        exact ⟨rfl, rfl⟩
  · rintro ⟨hfirst, hslots⟩
    simp [pieces, hfirst, hslots]

theorem occursIn_plain_append {form : Form} {chunk rest : List Char} (hchunk : Plain chunk)
    (hrest : form = .reference → Bounds rest) :
    form.occursIn (chunk ++ rest) = form.occursIn rest := by
  rw [Form.occursIn, pieces_plain_append hchunk hrest, List.any_append]
  simp [Form.occursIn, Piece.isMarker]

/-- No reference comes about inside a placeholder or where it meets the text behind it. -/
theorem occursIn_reference_placeholder {body : List Char} (hbody : Plain body)
    (rest : List Char) :
    Form.reference.occursIn (Form.placeholder.write body ++ rest) =
      Form.reference.occursIn rest := by
  have hspace : isBrace ' ' = false := by decide
  have hinner : Plain (' ' :: (body ++ [' '])) :=
    List.forall_mem_cons.2
      ⟨hspace, List.forall_mem_append.2 ⟨hbody, List.forall_mem_singleton.2 hspace⟩⟩
  have hsplit : Form.placeholder.write body ++ rest =
      '{' :: '{' :: (' ' :: (body ++ [' ']) ++ '}' :: '}' :: rest) := by
    simp [Form.write]
  have hbounds : Bounds ('}' :: '}' :: rest) := by
    intro c cs h
    cases h
  rw [hsplit, occursIn_cons, occursIn_cons, occursIn_plain_append hinner fun _ => hbounds,
    occursIn_cons, occursIn_cons]
  simp [Form.take, takeReference]

/-- No reference comes about between the `$` of the text and the brace of a placeholder. -/
theorem not_occursIn_reference (hholds : ∀ body ∈ t.bodies, Form.placeholder.Holds body) :
    Form.reference.occursIn (t.write .placeholder) = false := by
  have hslots : ∀ slots : List (List Char × List Char),
      (∀ s ∈ slots, Plain s.1 ∧ Plain s.2) → Form.reference.occursIn
        (slots.flatMap fun s => Form.placeholder.write s.1 ++ s.2) = false := by
    intro slots
    induction slots with
    | nil => exact fun _ => occursIn_nil _
    | cons s slots ih =>
      intro h
      obtain ⟨⟨hbody, hchunk⟩, hslots⟩ := List.forall_mem_cons.1 h
      rw [List.flatMap_cons, List.append_assoc, occursIn_reference_placeholder hbody,
        occursIn_plain_append hchunk fun _ => bounds_slots (by decide) slots, ih hslots]
  rw [write, fill,
    occursIn_plain_append t.first_plain fun _ => bounds_slots (by decide) t.slots]
  exact hslots t.slots fun s hs =>
    ⟨(hholds s.1 (List.mem_map_of_mem hs)).plain, t.slots_plain s hs⟩

/-! ### Replacing the markers -/

section Substitute

variable {f : List Char → Except Fault Value}

theorem substitute_slots {slots : List (List Char × List Char)} {v : List Char → Value}
    (hv : ∀ s ∈ slots, f s.1 = .ok (v s.1)) :
    substitute f (slots.flatMap fun s => .marker s.1 :: s.2.map .plain) =
      .ok (slots.flatMap fun s => (v s.1).render.toList ++ s.2) := by
  induction slots with
  | nil => rfl
  | cons s slots ih =>
    obtain ⟨hs, hslots⟩ := List.forall_mem_cons.1 hv
    rw [List.flatMap_cons, List.cons_append, substitute, hs, substitute_append, substitute_plain,
      ih hslots, List.flatMap_cons, List.append_assoc]
    rfl

theorem substitute_pieces {v : List Char → Value} (hv : ∀ body ∈ t.bodies, f body = .ok (v body)) :
    substitute f t.pieces = .ok (t.render v) := by
  rw [pieces, substitute_append, substitute_plain,
    substitute_slots fun s hs => hv s.1 (List.mem_map_of_mem hs)]
  rfl

theorem substitute_pieces_error {before after : List (List Char)} {body : List Char} {fault : Fault}
    (hbodies : t.bodies = before ++ body :: after) (hbefore : ∀ b ∈ before, ∃ v, f b = .ok v)
    (hbody : f body = .error fault) : substitute f t.pieces = .error fault := by
  obtain ⟨v, hv⟩ : ∃ v : List Char → Value, ∀ b ∈ before, f b = .ok (v b) := by
    refine ⟨fun b => (f b).toOption.getD .null, fun b hb => ?_⟩
    obtain ⟨w, hw⟩ := hbefore b hb
    simp [hw, Except.toOption]
  obtain ⟨slots, rest, hslots, rfl, hrest⟩ := List.map_eq_append_iff.1 hbodies
  obtain ⟨s, later, rfl, rfl, -⟩ := List.map_eq_cons_iff.1 hrest
  have hfirst := substitute_slots fun s hs => hv s.1 (List.mem_map_of_mem hs)
  rw [pieces, hslots, List.flatMap_append, substitute_append, substitute_plain, substitute_append,
    hfirst, List.flatMap_cons, List.cons_append, substitute, hbody]
  rfl

end Substitute

end Template

end PathBag.Marker
