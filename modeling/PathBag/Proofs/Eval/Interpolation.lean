import PathBag.Proofs.Eval.Depth
import PathBag.Proofs.Marker.Defaults
import PathBag.Proofs.Marker.Templates

/-!
# Markers filled into text

The value of a text in which markers stand between other text is that text with the texts of their
values filled in:

* `evalText_references`: for references, as long as no filled-in text opens a brace; the first
  reference whose key cannot be read stops the evaluation;
* `evalText_placeholders`: for placeholders, whatever is filled in, since that is never looked at
  again.
-/

namespace PathBag

namespace Marker

/-! ### Values -/

namespace Template

section Eval

variable (t : Template) (read : Lookup) {v : List Char → Value}

/-- Once its markers are filled in, text at either end keeps the whole from being code. -/
theorem fill_ne_code (h : t.first ≠ [] ∨ t.last ≠ []) (f : List Char → List Char)
    (body : List Char) : Form.code.pieces (t.fill f) ≠ [.marker body] := by
  intro heq
  have hspells := spells_of_pieces heq
  rcases h with hfirst | hlast
  · obtain ⟨c, cs, hcs⟩ := List.exists_cons_of_ne_nil hfirst
    have hc : isBrace c = false := t.first_plain c (hcs ▸ List.mem_cons_self)
    have hbrace := head?_of_spells hspells (by decide)
    rw [fill, hcs, List.cons_append, List.head?_cons] at hbrace
    cases hbrace
    exact absurd hc (by decide)
  · obtain ⟨front, hfront⟩ := t.exists_fill_eq_append_last f
    rcases List.eq_nil_or_concat t.last with hnil | ⟨init, c, hcs⟩
    · exact hlast hnil
    · have hc : isBrace c = false := t.last_plain c (by simp [hcs])
      have hbrace := getLast?_of_spells hspells
      rw [hfront, hcs, List.concat_eq_append, ← List.append_assoc, List.getLast?_concat] at hbrace
      cases hbrace
      exact absurd hc (by decide)

section References

variable (hholds : ∀ body ∈ t.bodies, Form.reference.Holds body)
  (hmore : ¬ (t.slots.length = 1 ∧ t.first = [] ∧ t.last = []))

include hholds hmore

theorem evalReferences_write (hslots : t.slots ≠ []) (rounds : Nat) :
    evalReferences read (rounds + 1) (t.write .reference) =
      substitute (referenceValue read) t.pieces >>= evalReferences read rounds := by
  have hpieces : Form.reference.pieces (t.write .reference) = t.pieces :=
    t.pieces_write (by decide) hholds
  have hocc : Form.reference.occursIn (t.write .reference) = true := by
    obtain ⟨s, slots, hs⟩ := List.exists_cons_of_ne_nil hslots
    simp [Form.occursIn, hpieces, pieces, hs, Piece.isMarker]
  have hne : ∀ body, Form.reference.pieces (t.write .reference) ≠ [.marker body] := by
    intro body heq
    rw [hpieces, pieces_eq_marker_iff] at heq
    obtain ⟨hfirst, hone⟩ := heq
    exact hmore ⟨by rw [hone]; rfl, hfirst, by rw [last, hone]; rfl⟩
  rw [evalReferences_of_ne_marker read hne hocc, hpieces]

/-- References within text give way to the texts of their values. -/
theorem eval_references
    (hv : ∀ body ∈ t.bodies, read.get (String.ofList body) undefined = .ok (v body))
    (hrender : ∀ body ∈ t.bodies, '{' ∉ (v body).render.toList) :
    eval read (String.ofList (t.write .reference)) = .ok (.string (String.ofList (t.render v))) := by
  -- what has been filled in starts no further marker
  have hbrace : '{' ∉ t.render v := by
    intro h
    rcases t.mem_fill_iff.1 h with hfirst | ⟨s, hs, hbody | hchunk⟩
    · exact absurd (t.first_plain _ hfirst) (by decide)
    · exact hrender s.1 (List.mem_map_of_mem hs) hbody
    · exact absurd (t.slots_plain s hs _ hchunk) (by decide)
  rw [eval, String.toList_ofList]
  by_cases hslots : t.slots = []
  · have hwrite : t.write .reference = t.render v := by simp [write, render, fill, hslots]
    rw [hwrite, evalReferences_of_no_brace read hbrace]
  · have hvalue : ∀ body ∈ t.bodies, referenceValue read body = .ok (v body) := hv
    rw [roundLimit, t.evalReferences_write read hholds hmore hslots, t.substitute_pieces hvalue]
    exact evalReferences_of_no_brace read hbrace 63

/-- The first reference whose key cannot be read stops the evaluation. -/
theorem eval_references_error {before after : List (List Char)} {body : List Char} {fault : Fault}
    (hbodies : t.bodies = before ++ body :: after)
    (hbefore : ∀ b ∈ before, ∃ v, read.get (String.ofList b) undefined = .ok v)
    (hbody : read.get (String.ofList body) undefined = .error fault) :
    eval read (String.ofList (t.write .reference)) = .error fault := by
  have hslots : t.slots ≠ [] := by
    intro h
    simp [bodies, h] at hbodies
  have hstop : substitute (referenceValue read) t.pieces = .error fault :=
    t.substitute_pieces_error hbodies hbefore hbody
  rw [eval, String.toList_ofList, roundLimit, t.evalReferences_write read hholds hmore hslots, hstop]
  rfl

end References

/-- Placeholders within text give way to the texts of their values, and these texts stay. -/
theorem eval_placeholders (hholds : ∀ body ∈ t.bodies, Form.placeholder.Holds body)
    (hbar : ∀ body ∈ t.bodies, '|' ∉ body) (hends : t.first ≠ [] ∨ t.last ≠ [])
    (hv : ∀ body ∈ t.bodies, read.get (String.ofList body) undefined = .ok (v body)) :
    eval read (String.ofList (t.write .placeholder)) =
      .ok (.string (String.ofList (t.render v))) := by
  have hpieces : Form.placeholder.pieces (t.write .placeholder) = t.pieces :=
    t.pieces_write (by decide) hholds
  have hne : ∀ body, Form.placeholder.pieces (t.write .placeholder) ≠ [.marker body] := by
    intro body heq
    rw [hpieces, pieces_eq_marker_iff] at heq
    obtain ⟨hfirst, hslots⟩ := heq
    rcases hends with h | h
    · exact h hfirst
    · exact h (by simp [last, hslots])
  have hvalue : ∀ body ∈ t.bodies, placeholderValue read body = .ok (v body) := fun body hb =>
    (placeholderValue_of_no_bar read (hbar body hb)).trans (hv body hb)
  rw [eval, String.toList_ofList,
    evalReferences_of_not_occursIn read (t.not_occursIn_reference hholds),
    evalPlaceholders_of_ne_marker read hne, hpieces, t.substitute_pieces hvalue]
  exact evalCode_of_ne_marker read (t.fill_ne_code hends _)

end Eval

end Template

end Marker

namespace Live

open Marker

variable (tree : Value) (levels : Nat) (t : Template)

/-- **References are filled in.**  Take a text without braces but for its references, of which there
is not one alone.  If every key they name has a value whose text opens no brace, evaluation replaces
each reference by that text and changes nothing else.  If not every key can be read, evaluation
stops at the fault of the first that cannot. -/
theorem evalText_references (hkeys : ∀ key ∈ t.bodies, key ≠ [] ∧ Plain key)
    (hmore : ¬ (t.slots.length = 1 ∧ t.first = [] ∧ t.last = [])) :
    (∀ v : List Char → Value,
      (∀ key ∈ t.bodies, (reader tree levels).get (String.ofList key) undefined = .ok (v key)) →
      (∀ key ∈ t.bodies, '{' ∉ (v key).render.toList) →
      evalText tree (levels + 1) (String.ofList (t.write .reference)) =
        .ok (.string (String.ofList (t.render v)))) ∧
    (∀ before key after fault, t.bodies = before ++ key :: after →
      (∀ k ∈ before, ∃ v, (reader tree levels).get (String.ofList k) undefined = .ok v) →
      (reader tree levels).get (String.ofList key) undefined = .error fault →
      evalText tree (levels + 1) (String.ofList (t.write .reference)) = .error fault) := by
  have hholds : ∀ key ∈ t.bodies, Form.reference.Holds key := fun key hkey =>
    ⟨(hkeys key hkey).1, (hkeys key hkey).2, fun h => absurd rfl h⟩
  rw [evalText_succ]
  refine ⟨fun v hv hrender => ?_, fun before key after fault hbodies hbefore hkey => ?_⟩
  · exact t.eval_references _ hholds hmore hv hrender
  · exact t.eval_references_error _ hholds hmore hbodies hbefore hkey

/-- A dollar sign before a reference is text, and so is one that a value brings in.  A key that is
stored as a reference cannot be read when no level is left for it. -/
theorem evalText_references_dollar :
    evalText (.mapping [("x", .string "$\x7d"), ("y", .int 5), ("z", .string "$\x7by\x7d")]) 1
        "a$$\x7bx\x7d$$\x7by\x7d" = .ok (.string "a$$\x7d$5") ∧
    evalText (.mapping [("x", .string "$\x7d"), ("y", .int 5), ("z", .string "$\x7by\x7d")]) 1
        "$\x7by\x7d$\x7bz\x7d$\x7bx\x7d" = .error (.tooDeep levelLimit "$\x7by\x7d") := by
  let tree : Value := .mapping [("x", .string "$\x7d"), ("y", .int 5), ("z", .string "$\x7by\x7d")]
  let filled : Template := ⟨['a', '$'], [(['x'], ['$']), (['y'], [])], by decide, by decide⟩
  let stopped : Template := ⟨[], [(['y'], []), (['z'], []), (['x'], [])], by decide, by decide⟩
  have hfilled := (evalText_references tree 0 filled (by decide) (by decide)).1
    (fun key => if key = ['x'] then .string "$\x7d" else .int 5)
    (List.forall_mem_cons.2 ⟨rfl, List.forall_mem_singleton.2 rfl⟩)
    (List.forall_mem_cons.2 ⟨by decide, List.forall_mem_singleton.2 (by decide)⟩)
  have hstopped := (evalText_references tree 0 stopped (by decide) (by decide)).2
    [['y']] ['z'] [['x']] (.tooDeep levelLimit "$\x7by\x7d") rfl
    (List.forall_mem_singleton.2 ⟨.int 5, rfl⟩) rfl
  exact ⟨hfilled, hstopped⟩

/-- **Placeholders are filled in once.**  Take a text without braces but for its placeholders, with
other text at one end, and let their keys hold no blank and no bar.  If every key has a value,
evaluation replaces each placeholder by its text and changes nothing else, even if that text holds
markers of its own. -/
theorem evalText_placeholders
    (hkeys : ∀ key ∈ t.bodies, key ≠ [] ∧ Plain key ∧ ∀ c ∈ key, Text.isBlank c = false ∧ c ≠ '|')
    (hends : t.first ≠ [] ∨ t.last ≠ []) (v : List Char → Value)
    (hv : ∀ key ∈ t.bodies, (reader tree levels).get (String.ofList key) undefined = .ok (v key)) :
    evalText tree (levels + 1) (String.ofList (t.write .placeholder)) =
      .ok (.string (String.ofList (t.render v))) := by
  have hholds : ∀ key ∈ t.bodies, Form.placeholder.Holds key := fun key hkey =>
    ⟨(hkeys key hkey).1, (hkeys key hkey).2.1, fun _ c hc => ((hkeys key hkey).2.2 c hc).1⟩
  have hbar : ∀ key ∈ t.bodies, '|' ∉ key := fun key hkey hmem =>
    ((hkeys key hkey).2.2 '|' hmem).2 rfl
  rw [evalText_succ]
  exact t.eval_placeholders _ hholds hbar hends hv

/-- Names of entries are not evaluated, so a text that is filled in may hold markers of every form. -/
theorem evalText_placeholders_markers :
    evalString
        (.mapping [("m", .mapping [("$\x7bb\x7d \x7b\x7b b \x7d\x7d", .int 1)]), ("b", .int 2)])
        "\x7b\x7b m \x7d\x7d, \x7b\x7b b \x7d\x7d!" =
      .ok (.string "\x7b\"$\x7bb\x7d \x7b\x7b b \x7d\x7d\":1\x7d, 2!") := by
  let m : Value := .mapping [("$\x7bb\x7d \x7b\x7b b \x7d\x7d", .int 1)]
  let t : Template := ⟨[], [(['m'], [',', ' ']), (['b'], ['!'])], by decide, by decide⟩
  let v : List Char → Value := fun key => if key = ['m'] then m else .int 2
  have hkeys : ∀ key ∈ t.bodies,
      key ≠ [] ∧ Plain key ∧ ∀ c ∈ key, Text.isBlank c = false ∧ c ≠ '|' := by
    intro key hkey
    obtain rfl | rfl : key = ['m'] ∨ key = ['b'] := by simpa [t, Template.bodies] using hkey
    · exact ⟨by decide, by decide, List.forall_mem_singleton.2 ⟨by decide, by decide⟩⟩
    · exact ⟨by decide, by decide, List.forall_mem_singleton.2 ⟨by decide, by decide⟩⟩
  have heval := evalText_placeholders (.mapping [("m", m), ("b", .int 2)]) 63 t hkeys
    (.inr (by decide)) v (List.forall_mem_cons.2 ⟨rfl, List.forall_mem_singleton.2 rfl⟩)
  have hrender : String.ofList (t.render v) =
      "\x7b\"$\x7bb\x7d \x7b\x7b b \x7d\x7d\":1\x7d, 2!" := by decide
  rw [hrender] at heval
  exact heval

end Live

end PathBag
