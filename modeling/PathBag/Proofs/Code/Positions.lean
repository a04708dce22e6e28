import Mathlib.Data.List.DropRight
import PathBag.Proofs.Code.Streams
import PathBag.Proofs.Eval.Outcome

/-!
# Where a cursor stands

A cursor goes through its text once and knows where it is.  Every move of it passes over characters
(`Cursor.Passes`), and asking for a token is such a move, whatever comes of it: a token and a fault
take at least one character, and the end token comes behind the last one (`Cursor.next_takes`).  So
after any number of calls the cursor stands behind a part of the text, at the line and the column
that this part ends in, and the calls come to the end token or to a fault before they outnumber the
characters by more than one (`Cursor.after_start`).
-/

namespace PathBag.Code

namespace Position

/-- The place behind the characters of a text: one line more than there are line breaks, and as many
columns as there are characters behind the last of these. -/
def behind (cs : List Char) : Position := ⟨1 + cs.count '\n', (cs.rtakeWhile (· ≠ '\n')).length⟩

theorem advance_append (p : Position) (cs ds : List Char) :
    p.advance (cs ++ ds) = (p.advance cs).advance ds := List.foldl_append

theorem behind_concat (cs : List Char) (c : Char) : behind (cs ++ [c]) = (behind cs).step c := by
  by_cases hc : c = '\n'
  · subst hc
    have hcolumn : (cs ++ ['\n']).rtakeWhile (· ≠ '\n') = [] :=
      List.rtakeWhile_concat_neg _ _ _ (by simp)
    rw [behind, hcolumn, List.count_append]
    rfl
  · have hcolumn : (cs ++ [c]).rtakeWhile (· ≠ '\n') = cs.rtakeWhile (· ≠ '\n') ++ [c] :=
      List.rtakeWhile_concat_pos _ _ _ (by simp [hc])
    rw [step, if_neg hc, behind, behind, hcolumn, List.count_append, List.count_singleton]
    simp [hc]

theorem origin_advance (cs : List Char) : origin.advance cs = behind cs := by
  induction cs using List.reverseRecOn with
  | nil => rfl
  | append_singleton cs c ih =>
    rw [advance_append, ih, behind_concat]
    rfl

end Position

namespace Cursor

/-! ### Moves -/

/-- One cursor comes from another by passing over some characters. -/
structure Passes (k : Cursor) (taken : List Char) (k' : Cursor) : Prop where
  rest_eq : k.rest = taken ++ k'.rest
  pos_eq : k'.pos = k.pos.advance taken

namespace Passes

variable {k k' k'' : Cursor} {taken taken' : List Char}

theorem refl (k : Cursor) : k.Passes [] k := ⟨rfl, rfl⟩

theorem trans (h : k.Passes taken k') (h' : k'.Passes taken' k'') :
    k.Passes (taken ++ taken') k'' where
  rest_eq := by rw [h.rest_eq, h'.rest_eq, List.append_assoc]
  pos_eq := by rw [h'.pos_eq, h.pos_eq, Position.advance_append]

theorem length_eq (h : k.Passes taken k') : k.rest.length = taken.length + k'.rest.length := by
  rw [h.rest_eq, List.length_append]

end Passes

theorem skipBlanks_passes (k : Cursor) :
    k.Passes (k.rest.takeWhile Text.isBlank) k.skipBlanks :=
  ⟨List.takeWhile_append_dropWhile.symm, rfl⟩

theorem moveTo_passes {k : Cursor} {taken rest : List Char} (h : k.rest = taken ++ rest) :
    k.Passes taken (k.moveTo rest) := by
  refine ⟨h, ?_⟩
  have htake : k.rest.take (k.rest.length - rest.length) = taken := by
    rw [h, List.length_append, Nat.add_sub_cancel, List.take_left]
  rw [moveTo, htake]

/-! ### Asking for a token -/

theorem isStop_of_scanNumber {point : Bool} {cs rest : List Char} {t : Token}
    (h : scanNumber point cs = (.ok t, rest)) : t.isStop = false := by
  unfold scanNumber at h
  dsimp only at h
  split at h
  · next d ds hrest =>
    split at h
    · cases h
      rfl
    · split at h <;> cases h
      rfl
  · split at h <;> cases h
    rfl

theorem isStop_of_scanSymbol {c : Char} {cs rest : List Char} {t : Token}
    (h : scanSymbol c cs = (.ok t, rest)) : t.isStop = false := by
  unfold scanSymbol at h
  split at h
  · cases h
    rfl
  · split at h <;> cases h
    rfl

/-- No scan makes an end token. -/
theorem isStop_of_scan {point : Bool} {c : Char} {cs rest : List Char} {t : Token}
    (h : scan point c cs = (.ok t, rest)) : t.isStop = false := by
  unfold scan at h
  split at h
  · split at h <;> cases h
    rfl
  · split at h
    · exact isStop_of_scanNumber h
    · split at h
      · cases h
        exact isStop_wordToken _
      · exact isStop_of_scanSymbol h

/-- What asking for a token comes to: the end token when the cursor has passed over all that was
left, or a token or a fault for which it passes over at least one character.  A fault tells where the
cursor stood behind the blanks, or where it stands now. -/
inductive Takes (k : Cursor) : Except Fault Token × Cursor → Prop
  | stop {k' : Cursor} : k.Passes k.rest k' → Takes k (.ok .stop, k')
  | token {t : Token} {taken : List Char} {k' : Cursor} : t.isStop = false → taken ≠ [] →
      k.Passes taken k' → Takes k (.ok t, k')
  | fault {snag : Snag} {blanks taken : List Char} {k' : Cursor} : taken ≠ [] →
      k.Passes (blanks ++ taken) k' →
      Takes k (.error (snag.fault (k.pos.advance blanks) k'.pos), k')

theorem next_takes (k : Cursor) : k.Takes k.next := by
  have hblanks := k.skipBlanks_passes
  unfold next
  dsimp only
  split
  · next hrest =>
    -- the blanks were all that was left
    have hall : k.rest.takeWhile Text.isBlank = k.rest := by
      have heq := hblanks.rest_eq
      rw [hrest, List.append_nil] at heq
      exact heq.symm
    have hpos : k.skipBlanks.pos = k.pos.advance k.rest := hall ▸ hblanks.pos_eq
    exact .stop ⟨(List.append_nil _).symm, hpos⟩
  · next c cs hrest =>
    obtain ⟨taken, htaken⟩ := scan_suffix (!k.afterDot) c cs
    have hsplit : k.skipBlanks.rest = c :: taken ++ (scan (!k.afterDot) c cs).2 := by
      rw [hrest, List.cons_append, htaken]
    have hpasses := hblanks.trans (moveTo_passes hsplit)
    have hne : c :: taken ≠ [] := List.cons_ne_nil c taken
    split
    · next t hscan =>
      have hstop : t.isStop = false := isStop_of_scan (Prod.ext hscan rfl)
      exact .token hstop (List.append_ne_nil_of_right_ne_nil _ hne)
        ⟨hpasses.rest_eq, hpasses.pos_eq⟩
    · exact .fault hne hpasses

/-! ### One call after the other -/

/-- The cursor after some calls, whatever came of them. -/
def after : Nat → Cursor → Cursor
  | 0, k => k
  | n + 1, k => after n k.next.2

theorem Takes.exists_passes {k : Cursor} {result : Except Fault Token × Cursor}
    (h : k.Takes result) : ∃ taken, k.Passes taken result.2 := by
  cases h with
  | stop hpasses => exact ⟨_, hpasses⟩
  | token _ _ hpasses => exact ⟨_, hpasses⟩
  | fault _ hpasses => exact ⟨_, hpasses⟩

theorem exists_passes_after (n : Nat) (k : Cursor) : ∃ taken, k.Passes taken (k.after n) := by
  induction n generalizing k with
  | zero => exact ⟨[], .refl k⟩
  | succ n ih =>
    obtain ⟨taken, htaken⟩ := k.next_takes.exists_passes
    obtain ⟨more, hmore⟩ := ih k.next.2
    exact ⟨taken ++ more, htaken.trans hmore⟩

/-- A token takes a character, so there is an end before there are more calls than characters. -/
theorem exists_end_after (k : Cursor) :
    ∃ n ≤ k.rest.length, EndsIn (fun _ => True) (fun t => t.isStop = true) (k.after n).next.1 := by
  induction hlength : k.rest.length using Nat.strongRecOn generalizing k with
  | ind length ih =>
    have htakes := k.next_takes
    generalize hnext : k.next = result at htakes
    cases htakes with
    | stop _ => exact ⟨0, Nat.zero_le _, by rw [after, hnext]; exact rfl⟩
    | fault _ _ => exact ⟨0, Nat.zero_le _, by rw [after, hnext]; exact trivial⟩
    | @token t taken k' _ hne hpasses =>
      have hshort := hpasses.length_eq
      have htaken := List.length_pos_iff.2 hne
      obtain ⟨n, hn, hend⟩ := ih k'.rest.length (by omega) k' rfl
      exact ⟨n + 1, by omega, by rw [after, hnext]; exact hend⟩

/-- **A cursor goes through its text once and knows where it is.**  After any number of calls the
text is what the cursor has passed and what is ahead of it, and its place is the one behind what it
has passed.  The next call takes a character for a token, or comes to the end token when it has
passed the last one.  So the end token or a fault comes after at most one call for each character
and one more. -/
theorem after_start (code : String) :
    (∀ n, (∃ consumed, code.toList = consumed ++ ((start code).after n).rest ∧
        ((start code).after n).pos = Position.behind consumed) ∧
      ((start code).after n).Takes ((start code).after n).next) ∧
    ∃ n ≤ code.toList.length,
      EndsIn (fun _ => True) (fun t => t.isStop = true) ((start code).after n).next.1 := by
  refine ⟨fun n => ⟨?_, next_takes _⟩, exists_end_after (start code)⟩
  obtain ⟨consumed, hpasses⟩ := exists_passes_after n (start code)
  exact ⟨consumed, hpasses.rest_eq, hpasses.pos_eq.trans (Position.origin_advance consumed)⟩

/-- In the second line an open quote is told at its own place. -/
example : ((start "a\n 'b").after 1).next.1 = .error (.unclosedString '\'' ⟨2, 1⟩) := by rfl

end Cursor

end PathBag.Code
