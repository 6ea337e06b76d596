/-!
# Steps that can fail

Where a step after another one succeeds, both have succeeded.
-/

namespace PathTemplate

variable {ε ε' α β : Type}

theorem exists_of_bind_eq_ok {x : Except ε α} {f : α → Except ε β} {b : β}
    (h : (x >>= f) = .ok b) : ∃ a, x = .ok a ∧ f a = .ok b := by
  cases x with
  | error fault => cases h
  | ok a => exact ⟨a, rfl, h⟩

theorem eq_ok_of_mapError {x : Except ε α} {f : ε → ε'} {a : α} (h : x.mapError f = .ok a) :
    x = .ok a := by
  cases x with
  | error fault => cases h
  | ok b =>
      cases h
      rfl

theorem map_eq_ok_iff {x : Except ε α} {f : α → β} {b : β} :
    x.map f = .ok b ↔ ∃ a, x = .ok a ∧ f a = b := by
  cases x with
  | error fault => simp [Except.map]
  | ok a => simp [Except.map]

theorem map_some_inj {ε α : Type} {x y : Except ε α} : x.map some = y.map some ↔ x = y := by
  cases x with
  | error e =>
      cases y with
      | error e' => simp [Except.map]
      | ok b => simp [Except.map]
  | ok a =>
      cases y with
      | error e' => simp [Except.map]
      | ok b => simp [Except.map]

end PathTemplate
