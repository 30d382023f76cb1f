import Mathlib.Data.List.Basic

/-!
# Computations that log the memory they touch

A `Traced` computation carries the accesses it made, in order, and its result.
It has no result if it ended in an access that cannot be made. `Guarded` says
that this is the only way to end without one: the computation returns exactly
if all its accesses are allowed. It is proved along the steps of a computation.
-/

namespace AccessTrace

set_option autoImplicit false

structure Traced (Access Value : Type*) where
  accesses : List Access
  value : Option Value

variable {Access Value Other : Type*}

def Traced.pure (value : Value) : Traced Access Value where
  accesses := []
  value := some value

def Traced.bind (first : Traced Access Value) (next : Value → Traced Access Other) :
    Traced Access Other :=
  match first.value with
  | none => ⟨first.accesses, none⟩
  | some value => ⟨first.accesses ++ (next value).accesses, (next value).value⟩

theorem bind_value (first : Traced Access Value) (next : Value → Traced Access Other) :
    (first.bind next).value = first.value.bind fun value => (next value).value := by
  unfold Traced.bind
  cases first.value with
  | none => rfl
  | some value => rfl

def Traced.Guarded (allowed : Access → Prop) (computation : Traced Access Value) : Prop :=
  computation.value.isSome ↔ ∀ access ∈ computation.accesses, allowed access

variable {allowed : Access → Prop}

theorem guarded_pure (value : Value) :
    (Traced.pure value : Traced Access Value).Guarded allowed := by
  simp [Traced.Guarded, Traced.pure]

theorem guarded_bind {first : Traced Access Value} {next : Value → Traced Access Other}
    (before : first.Guarded allowed)
    (after : ∀ value, first.value = some value → (next value).Guarded allowed) :
    (first.bind next).Guarded allowed := by
  unfold Traced.Guarded Traced.bind
  unfold Traced.Guarded at before
  cases outcome : first.value with
  | none =>
      rw [outcome] at before
      exact before
  | some value =>
      rw [outcome, Option.isSome_some] at before
      dsimp only
      have onward := after value outcome
      unfold Traced.Guarded at onward
      rw [List.forall_mem_append, onward]
      exact (and_iff_right (before.mp rfl)).symm

end AccessTrace
