import BatchFrontier.Traced

/-!
# What computations fail with

A computation is told by the faults it may fail with: all of them have a property. The property is
kept by putting computations together, and what is put together gives a value if its parts do.
-/

namespace BatchFrontier

/-- That all faults of a computation have a property. -/
def FailsOnly {α : Type} (p : Fault → Bool) (x : Except Fault α) : Prop :=
  ∀ f, x = .error f → p f = true

namespace FailsOnly

variable {α β : Type} {p : Fault → Bool}

theorem ok (a : α) : FailsOnly p (.ok a) := fun _ h => nomatch h

theorem error {f : Fault} (h : p f = true) : FailsOnly p (.error f : Except Fault α) :=
  fun _ hf => Except.error.inj hf ▸ h

/-- A fault that shows a value, or the one that stands for it if the value cannot be written. -/
theorem showing {fault : Value → Fault} {v : Value} (hshown : p (fault v) = true)
    (hunshown : p .unwrittenInteger = true) :
    FailsOnly p (.error (.showing fault v) : Except Fault α) := by
  unfold Fault.showing
  split
  · exact error hshown
  · exact error hunshown

theorem bind {x : Except Fault α} {next : α → Except Fault β} (hx : FailsOnly p x)
    (hnext : ∀ a, x = .ok a → FailsOnly p (next a)) : FailsOnly p (x >>= next) := by
  cases x with
  | error f => exact error (hx f rfl)
  | ok a => exact hnext a rfl

theorem map {x : Except Fault α} (g : α → β) (hx : FailsOnly p x) : FailsOnly p (x.map g) := by
  cases x with
  | error f => exact error (hx f rfl)
  | ok a => exact ok (g a)

end FailsOnly

/-- Two computations one after the other give a value if the first gives one and the second does
from there. -/
theorem Traced.bind_eq_ok_iff {α β : Type} {x : Traced α} {next : α → Traced β} {b : β} :
    (x >>= next).result = .ok b ↔ ∃ a, x.result = .ok a ∧ (next a).result = .ok b := by
  rw [bind_result]
  cases x.result <;> simp [Except.bind]

end BatchFrontier
