import Mathlib.Data.List.Forall2
import PathBag.Proofs.Eval.Outcome
import PathBag.Proofs.Json.RoundTrip
import PathBag.Shape

/-!
# Exact extraction

Where there are no floats, a value is read as a shape exactly if it is the embedding of some data of
this shape, and then it is read as these data (`Shape.extract_eq_ok_iff`).  So reading drops no item,
changes no order and turns no integer into another one.  Every other value is a type error.
-/

namespace PathBag

/-- The fault of a value that is not of the type asked for. -/
def Fault.IsTypeError (fault : Fault) : Prop :=
  ∃ text, fault.report.complaint = .typeError text

namespace Shape

/-- Is there no place for a float in a shape? -/
def floatFree : Shape → Bool
  | number => false
  | list s | table s => s.floatFree
  | text | truth | integer | word16 | size => true

/-- The value is the embedding of the data: the same text, truth value or number, the embeddings of
the items in their order, or those of the contents under the same names in their order.  A number
without sign has no embedding if it is no 64-bit integer. -/
def Embeds : (s : Shape) → s.Carrier → Value → Prop
  | text, (t : String), v => v = .string t
  | truth, (b : Bool), v => v = .bool b
  | integer, (n : Int64), v => v = .int n
  | number, (x : Float), v => v = .float x
  | word16, (n : UInt16), v => ∃ i : Int64, v = .int i ∧ i.toInt = n.toNat
  | size, (n : UInt64), v => ∃ i : Int64, v = .int i ∧ i.toInt = n.toNat
  | list s, (xs : List s.Carrier), v =>
    ∃ items, v = .sequence items ∧ List.Forall₂ (fun item x => s.Embeds x item) items xs
  | table s, (es : List (String × s.Carrier)), v =>
    ∃ entries : Entries Value, v = .mapping entries ∧
      List.Forall₂ (fun entry e => entry.1 = e.1 ∧ s.Embeds e.2 entry.2) entries es

/-! ### Steps over lists -/

section Steps

variable {α β : Type} {f : α → Except Fault β}

/-- Where each step is known, the results of all of them stand in the order of the list. -/
theorem mapM_eq_ok_iff {R : α → β → Prop} {as : List α} (h : ∀ a ∈ as, ∀ b, f a = .ok b ↔ R a b)
    {bs : List β} : as.mapM f = .ok bs ↔ List.Forall₂ R as bs := by
  induction as generalizing bs with
  | nil =>
    rw [List.mapM_nil, List.forall₂_nil_left_iff]
    exact ⟨fun h => by cases h; rfl, fun h => by rw [h]; rfl⟩
  | cons a as ih =>
    obtain ⟨ha, has⟩ := List.forall_mem_cons.1 h
    rw [List.mapM_cons, List.forall₂_cons_left_iff]
    constructor
    · intro hall
      obtain ⟨b, hb, hall⟩ := exists_of_bind_eq_ok hall
      obtain ⟨rest, hrest, hall⟩ := exists_of_bind_eq_ok hall
      cases hall
      exact ⟨b, rest, (ha b).1 hb, (ih has).1 hrest, rfl⟩
    · rintro ⟨b, rest, hb, hrest, rfl⟩
      rw [(ha b).2 hb, ok_bind, (ih has).2 hrest]
      rfl

theorem mapM_endsIn {P : Fault → Prop} {as : List α} (h : ∀ a ∈ as, EndsIn P (fun _ => True) (f a)) :
    EndsIn P (fun _ => True) (as.mapM f) := by
  induction as with
  | nil => trivial
  | cons a as ih =>
    obtain ⟨ha, has⟩ := List.forall_mem_cons.1 h
    rw [List.mapM_cons]
    exact ha.bind fun b _ => (ih has).bind fun bs _ => trivial

theorem eq_map_of_forall₂ {g : β → α} {as : List α} {bs : List β}
    (h : List.Forall₂ (fun a b => a = g b) as bs) : as = bs.map g := by
  rwa [← List.forall₂_map_right_iff, List.forall₂_eq_eq_eq] at h

end Steps

/-! ### Integers -/

section Integers

variable {v : Value} (hv : v.floatFree = true)

include hv

theorem integerOf_eq_ok_iff {n : Int64} : integerOf v = .ok n ↔ v = .int n := by
  cases v with
  | int m => simp [integerOf]
  | float x => cases hv
  | _ => simp [integerOf]

/-- What is made of an integer is made of a stored one. -/
theorem integerOf_bind_eq_ok_iff {α : Type} {f : Int64 → Except Fault α} {x : α} :
    integerOf v >>= f = .ok x ↔ ∃ n, v = .int n ∧ f n = .ok x := by
  constructor
  · intro h
    obtain ⟨n, hn, hx⟩ := exists_of_bind_eq_ok h
    exact ⟨n, (integerOf_eq_ok_iff hv).1 hn, hx⟩
  · rintro ⟨n, rfl, hx⟩
    exact hx

theorem extract_word16_eq_ok_iff {x : UInt16} :
    extract word16 v = .ok x ↔ ∃ n : Int64, v = .int n ∧ n.toInt = x.toNat := by
  refine (integerOf_bind_eq_ok_iff hv).trans (exists_congr fun n => and_congr_right fun _ => ?_)
  have hx := x.toNat_lt
  by_cases hrange : 0 ≤ n.toInt ∧ n.toInt < 2 ^ 16
  · have hsame : UInt16.ofNat n.toInt.toNat = x ↔ n.toInt = x.toNat := by
      rw [← UInt16.toNat_inj, UInt16.toNat_ofNat']
      omega
    rw [if_pos hrange]
    exact ⟨fun h => hsame.1 (Except.ok.inj h), fun h => congrArg Except.ok (hsame.2 h)⟩
  · rw [if_neg hrange]
    exact iff_of_false nofun (by omega)

theorem extract_size_eq_ok_iff {x : UInt64} :
    extract size v = .ok x ↔ ∃ n : Int64, v = .int n ∧ n.toInt = x.toNat := by
  refine (integerOf_bind_eq_ok_iff hv).trans (exists_congr fun n => and_congr_right fun _ => ?_)
  have hn := n.toInt_lt
  by_cases hrange : 0 ≤ n.toInt
  · have hsame : UInt64.ofNat n.toInt.toNat = x ↔ n.toInt = x.toNat := by
      rw [← UInt64.toNat_inj, UInt64.toNat_ofNat']
      omega
    rw [if_pos hrange]
    exact ⟨fun h => hsame.1 (Except.ok.inj h), fun h => congrArg Except.ok (hsame.2 h)⟩
  · rw [if_neg hrange]
    exact iff_of_false nofun (by omega)

end Integers

/-! ### All shapes -/

theorem extract_eq_ok_iff_embeds {s : Shape} (hs : s.floatFree = true) {v : Value}
    (hv : v.floatFree = true) {x : s.Carrier} : s.extract v = .ok x ↔ s.Embeds x v := by
  induction s generalizing v with
  | text =>
    cases v with
    | string t => exact ⟨fun h => by cases h; rfl, fun h => by cases h; rfl⟩
    | _ => exact iff_of_false nofun nofun
  | truth =>
    cases v with
    | bool b => exact ⟨fun h => by cases h; rfl, fun h => by cases h; rfl⟩
    | _ => exact iff_of_false nofun nofun
  | integer => exact integerOf_eq_ok_iff hv
  | number => cases hs
  | word16 => exact extract_word16_eq_ok_iff hv
  | size => exact extract_size_eq_ok_iff hv
  | list s ih =>
    cases v with
    | sequence items =>
      rw [Value.floatFree_sequence] at hv
      have hitems : (list s).extract (.sequence items) = .ok x ↔
          List.Forall₂ (fun item x => s.Embeds x item) items x :=
        mapM_eq_ok_iff fun item hitem _ => ih hs (hv item hitem)
      refine hitems.trans ⟨fun h => ⟨items, rfl, h⟩, ?_⟩
      rintro ⟨_, heq, h⟩
      cases heq
      exact h
    | _ => exact iff_of_false nofun nofun
  | table s ih =>
    cases v with
    | mapping entries =>
      rw [Value.floatFree_mapping] at hv
      have hentries : (table s).extract (.mapping entries) = .ok x ↔
          List.Forall₂ (fun entry e => entry.1 = e.1 ∧ s.Embeds e.2 entry.2) entries x := by
        refine mapM_eq_ok_iff fun entry hentry e => ?_
        obtain ⟨name, w⟩ := entry
        obtain ⟨name', x⟩ := e
        have hw : s.extract w = .ok x ↔ s.Embeds x w := ih hs (hv _ hentry)
        constructor
        · intro h
          obtain ⟨x', hx, h⟩ := exists_of_bind_eq_ok h
          cases h
          exact ⟨rfl, hw.1 hx⟩
        · rintro ⟨rfl, hx⟩
          show (s.extract w >>= fun x => Except.ok (name, x)) = .ok (name, x)
          rw [hw.2 hx, ok_bind]
      refine hentries.trans ⟨fun h => ⟨entries, rfl, h⟩, ?_⟩
      rintro ⟨_, heq, h⟩
      cases heq
      exact h
    | _ => exact iff_of_false nofun nofun

/-- What has an embedding is what is embedded. -/
theorem Embeds.eq_embed {s : Shape} {x : s.Carrier} {v : Value} (h : s.Embeds x v) :
    v = s.embed x := by
  induction s generalizing v with
  | text | truth | integer | number => exact h
  | word16 =>
    obtain ⟨n, rfl, hn⟩ := h
    have hx := UInt16.toNat_lt x
    have hsame : n = Int64.ofNat (UInt16.toNat x) := by
      rw [← Int64.toInt_inj, hn, Int64.toInt_ofNat_of_lt (by omega)]
    exact congrArg Value.int hsame
  | size =>
    obtain ⟨n, rfl, hn⟩ := h
    have hlt := n.toInt_lt
    have hsame : n = Int64.ofNat (UInt64.toNat x) := by
      rw [← Int64.toInt_inj, hn, Int64.toInt_ofNat_of_lt (by omega)]
    exact congrArg Value.int hsame
  | list s ih =>
    obtain ⟨items, rfl, hitems⟩ := h
    have heach : List.Forall₂ (fun item x => item = s.embed x) items x :=
      hitems.imp fun _ _ hitem => ih hitem
    exact congrArg Value.sequence (eq_map_of_forall₂ heach)
  | table s ih =>
    obtain ⟨entries, rfl, hentries⟩ := h
    have heach : List.Forall₂ (fun entry e => entry = (e.1, s.embed e.2)) entries x :=
      hentries.imp fun _ _ hentry => Prod.ext hentry.1 (ih hentry.2)
    exact congrArg Value.mapping (eq_map_of_forall₂ heach)

/-! ### Faults -/

theorem isTypeError_wrongType (wanted : Expected) (v : Value) :
    (Fault.wrongType wanted v).IsTypeError := ⟨_, rfl⟩

theorem isTypeError_outOfRange (range : Range) (n : Int64) :
    (Fault.outOfRange range n).IsTypeError := by
  cases range <;> exact ⟨_, rfl⟩

theorem integerOf_endsIn (v : Value) : EndsIn Fault.IsTypeError (fun _ => True) (integerOf v) := by
  cases v with
  | int n => trivial
  | float x =>
    rw [integerOf]
    split
    · trivial
    · exact isTypeError_wrongType ..
  | _ => exact isTypeError_wrongType ..

/-- Whatever the value and the shape are, reading stops at nothing but a type error. -/
theorem extract_endsIn (s : Shape) (v : Value) :
    EndsIn Fault.IsTypeError (fun _ => True) (s.extract v) := by
  induction s generalizing v with
  | text | truth | number => cases v <;> first | trivial | exact isTypeError_wrongType ..
  | integer => exact integerOf_endsIn v
  | word16 | size =>
    refine (integerOf_endsIn v).bind fun n _ => ?_
    split
    · trivial
    · exact isTypeError_outOfRange ..
  | list s ih =>
    cases v with
    | sequence items => exact mapM_endsIn fun item _ => ih item
    | _ => exact isTypeError_wrongType ..
  | table s ih =>
    cases v with
    | mapping entries => exact mapM_endsIn fun entry _ => (ih entry.2).bind fun _ _ => trivial
    | _ => exact isTypeError_wrongType ..

/-- **Reading as a shape is exact.**  A value without floats is read as a shape exactly if it is the
embedding of the data that are read, which embed as this value again.  If it is the embedding of
no data, reading ends in a type error. -/
theorem extract_eq_ok_iff {s : Shape} (hs : s.floatFree = true) {v : Value}
    (hv : v.floatFree = true) :
    (∀ x, s.extract v = .ok x ↔ s.Embeds x v) ∧
    (∀ x, s.extract v = .ok x → s.embed x = v) ∧
    ((∀ x, ¬ s.Embeds x v) → ∃ fault : Fault, s.extract v = .error fault ∧ fault.IsTypeError) := by
  have hiff : ∀ x, s.extract v = .ok x ↔ s.Embeds x v := fun x => extract_eq_ok_iff_embeds hs hv
  refine ⟨hiff, fun x hx => ((hiff x).1 hx).eq_embed.symm, fun hnone => ?_⟩
  cases hextract : s.extract v with
  | ok x => exact absurd ((hiff x).1 hextract) (hnone x)
  | error fault => exact ⟨fault, rfl, (extract_endsIn s v).of_eq_error hextract⟩

/-- Rows of integers at the ends of their range. -/
def rows : Value :=
  .mapping [("b", .sequence [.int 65535, .int 0]), ("a", .sequence [])]

/-- The rows are read in their order, and a list is not read that ends below the range. -/
theorem extract_eq_ok_iff_rows :
    (table (list word16)).floatFree = true ∧ rows.floatFree = true ∧
      (table (list word16)).Embeds [("b", [(65535 : UInt16), (0 : UInt16)]), ("a", [])] rows ∧
      ∃ fault : Fault, (list size).extract (.sequence [.int Int64.maxValue, .int (-1)]) =
        .error fault ∧ fault.IsTypeError := by
  obtain ⟨hrows, -, -⟩ := extract_eq_ok_iff (s := table (list word16)) (v := rows) rfl rfl
  obtain ⟨hsizes, -, hnone⟩ := extract_eq_ok_iff (s := list size)
    (v := .sequence [.int Int64.maxValue, .int (-1)]) rfl rfl
  refine ⟨rfl, rfl, (hrows _).1 rfl, hnone fun x hx => ?_⟩
  cases (hsizes x).2 hx

end Shape

end PathBag
