/-! What all modules share. A power is the core library's, also beside the one Mathlib brings, so
that a definition means the same in a program and in a proof. Steps that may fail succeed together if
each of them does. -/

attribute [instance (2000), default_instance (20000)] instPowNat

namespace SitePreview

theorem Except.map_eq_ok {ε α β : Type} {f : α → β} {x : Except ε α} {b : β} :
    x.map f = .ok b ↔ ∃ a, x = .ok a ∧ f a = b := by
  cases x <;> simp [Except.map]

theorem Except.bind_eq_ok {ε α β : Type} {f : α → Except ε β} {x : Except ε α} {b : β} :
    x >>= f = .ok b ↔ ∃ a, x = .ok a ∧ f a = .ok b := by
  cases x <;> simp [bind, Except.bind]

end SitePreview
