import PathBag.Lookup
import PathBag.Report

/-!
# Outcomes

How an evaluation may end, and the relations between outcomes that evaluation carries along.

* `EndsIn P Q x`: `x` ends in a value of `Q` or stops at a fault of `P`;
* `NeverMisses x`: `x` does not stop at a lookup miss;
* `IsRuntimeError code x`: `x` stops at a runtime error with this code;
* `orDefault f a x`: the answer that a question with the default `a` makes of the outcome `x`;
* `Congruence R`: `R` relates every value and every fault but a miss to itself, and passes from the
  parts of a sequence of steps to the whole.  What holds of every congruence is proved once and
  used for each of them.
-/

namespace PathBag

variable {α β : Type}

theorem ok_bind (a : α) (f : α → Except Fault β) : (Except.ok a >>= f) = f a := rfl

theorem exists_of_bind_eq_ok {x : Except Fault α} {f : α → Except Fault β} {b : β}
    (h : x >>= f = .ok b) : ∃ a, x = .ok a ∧ f a = .ok b := by
  cases x with
  | error fault => cases h
  | ok a => exact ⟨a, rfl, h⟩

theorem exists_of_map_eq_ok {x : Except Fault α} {f : α → β} {b : β} (h : x.map f = .ok b) :
    ∃ a, x = .ok a ∧ f a = b := by
  cases x with
  | error fault => cases h
  | ok a =>
    cases h
    exact ⟨a, rfl, rfl⟩

/-- `x` ends in a value of `Q` or stops at a fault of `P`. -/
def EndsIn (P : Fault → Prop) (Q : α → Prop) : Except Fault α → Prop
  | .ok a => Q a
  | .error fault => P fault

namespace EndsIn

variable {P P' : Fault → Prop} {Q Q₁ : α → Prop} {Q' : β → Prop}

theorem bind {x : Except Fault α} {f : α → Except Fault β} (hx : EndsIn P Q x)
    (hf : ∀ a, Q a → EndsIn P Q' (f a)) : EndsIn P Q' (x >>= f) := by
  cases x with
  | error fault => exact hx
  | ok a => exact hf a hx

theorem mono {x : Except Fault α} (hx : EndsIn P Q x) (hP : ∀ fault, P fault → P' fault)
    (hQ : ∀ a, Q a → Q₁ a) : EndsIn P' Q₁ x := by
  cases x with
  | error fault => exact hP fault hx
  | ok a => exact hQ a hx

theorem imp {x : Except Fault α} (hx : EndsIn P Q x) (hQ : ∀ a, Q a → Q₁ a) : EndsIn P Q₁ x :=
  hx.mono (fun _ => id) hQ

/-- What is known of every fault of `P` is known of the fault that `x` stops at. -/
theorem mp {x : Except Fault α} (hx : EndsIn P Q x)
    (hx' : EndsIn (fun fault => P fault → P' fault) Q₁ x) :
    EndsIn P' (fun a => Q a ∧ Q₁ a) x := by
  cases x with
  | error fault => exact hx' hx
  | ok a => exact ⟨hx, hx'⟩

theorem of_eq_error {x : Except Fault α} (hx : EndsIn P Q x) {fault : Fault}
    (h : x = .error fault) : P fault := by
  subst h
  exact hx

end EndsIn

/-- The fault is no lookup miss. -/
def Fault.Loud (fault : Fault) : Prop := fault.isMiss = false

/-- `x` does not stop at a lookup miss. -/
def NeverMisses (x : Except Fault α) : Prop := EndsIn Fault.Loud (fun _ => True) x

@[simp] theorem neverMisses_ok (a : α) : NeverMisses (.ok a) := trivial

@[simp] theorem neverMisses_error_iff (fault : Fault) :
    NeverMisses (.error fault : Except Fault α) ↔ fault.isMiss = false := Iff.rfl

theorem neverMisses_map {x : Except Fault α} (hx : NeverMisses x) (f : α → β) :
    NeverMisses (x.map f) := by
  cases x with
  | error fault => exact hx
  | ok a => trivial

/-- What never misses ends only in such faults as all faults but misses are. -/
theorem NeverMisses.endsIn {P : Fault → Prop} {x : Except Fault α} (hx : NeverMisses x)
    (hP : ∀ fault, fault.Loud → P fault) : EndsIn P (fun _ => True) x := hx.mono hP fun _ => id

/-! ### Runtime errors -/

/-- The outcome of an operation that stops at a runtime error with this code. -/
def IsRuntimeError {α : Type} (code : Nat) (x : Except Fault α) : Prop :=
  ∃ fault text, x = .error fault ∧ fault.report.complaint = .runtimeError text ∧
    fault.report.code = some code

/-- An outcome has one code. -/
theorem IsRuntimeError.code_eq {x : Except Fault α} {m n : Nat} (hm : IsRuntimeError m x)
    (hn : IsRuntimeError n x) : m = n := by
  obtain ⟨fault, -, rfl, -, hm⟩ := hm
  obtain ⟨fault', -, heq, -, hn⟩ := hn
  cases heq
  exact Option.some.inj (hm.symm.trans hn)

theorem not_isRuntimeError_ok (code : Nat) (a : α) :
    ¬ IsRuntimeError code (.ok a : Except Fault α) := by
  rintro ⟨fault, -, heq, -⟩
  cases heq

/-! ### Questions with a default -/

/-- The answer that a question makes of the outcome of a read: a miss is answered by a default. -/
def orDefault (f : Value → α) (default : α) : Except Fault Value → Except Fault α
  | .ok v => .ok (f v)
  | .error fault => if fault.isMiss then .ok default else .error fault

theorem orDefault_neverMisses (f : Value → α) (default : α) (x : Except Fault Value) :
    NeverMisses (orDefault f default x) := by
  cases x with
  | ok v => exact neverMisses_ok (f v)
  | error fault =>
    rw [orDefault]
    cases h : fault.isMiss with
    | true => exact neverMisses_ok default
    | false => exact h

namespace Lookup

variable (read : Lookup) (key : String)

theorem getAs_eq (default : Value) (filter : Filter) :
    read.getAs key default filter =
      orDefault (fun v => if filter.admits v then v else default) default (read key) := by
  unfold getAs
  cases read key <;> rfl

theorem hasAs_eq (filter : Filter) :
    read.hasAs key filter = orDefault (filter.admits ·) false (read key) := by
  unfold hasAs
  cases read key <;> rfl

end Lookup

/-! ### Congruences -/

/-- A relation between outcomes that evaluation respects. -/
structure Congruence (R : (α : Type) → Except Fault α → Except Fault α → Prop) : Prop where
  ok : ∀ {α : Type} (a : α), R α (.ok a) (.ok a)
  loud : ∀ {α : Type} {fault : Fault}, fault.Loud → R α (.error fault) (.error fault)
  bind : ∀ {α β : Type} {x y : Except Fault α} {f g : α → Except Fault β},
    R α x y → (∀ a, R β (f a) (g a)) → R β (x >>= f) (y >>= g)

namespace Congruence

variable {R : (α : Type) → Except Fault α → Except Fault α → Prop} (hR : Congruence R)

include hR

theorem map {x y : Except Fault α} (h : R α x y) (f : α → β) : R β (x.map f) (y.map f) := by
  have hbind : ∀ z : Except Fault α, z.map f = z >>= fun a => .ok (f a) := by
    intro z
    cases z <;> rfl
  rw [hbind, hbind]
  exact hR.bind h fun a => hR.ok (f a)

/-- What never misses relates to itself. -/
theorem refl {x : Except Fault α} (h : NeverMisses x) : R α x x := by
  cases x with
  | error fault => exact hR.loud h
  | ok a => exact hR.ok a

end Congruence

/-- The first of two outcomes stops, if at all, at a fault of `P`. -/
def Stops (P : Fault → Prop) (α : Type) (x _ : Except Fault α) : Prop := EndsIn P (fun _ => True) x

/-- Stopping at certain faults is a congruence when these are all faults but some misses. -/
theorem stops_congruence {P : Fault → Prop} (hP : ∀ fault, fault.Loud → P fault) :
    Congruence (Stops P) where
  ok _ := trivial
  loud h := hP _ h
  bind hx hf := EndsIn.bind hx fun a _ => hf a

end PathBag
