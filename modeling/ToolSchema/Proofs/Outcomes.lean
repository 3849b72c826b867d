/-!
# Laws of outcomes

Reading, decoding and loading give a value or say what is wrong. A sequence gives a value if every
step of it does, and changing what is said of a failure changes no value.
-/

namespace ToolSchema.Outcome

variable {ε δ α β : Type}

theorem bind_eq_ok {first : Except ε α} {next : α → Except ε β} {out : β} :
    first >>= next = .ok out ↔ ∃ value, first = .ok value ∧ next value = .ok out := by
  cases first <;> simp [bind, Except.bind]

theorem map_eq_ok {outcome : Except ε α} {change : α → β} {out : β} :
    outcome.map change = .ok out ↔ ∃ value, outcome = .ok value ∧ change value = out := by
  cases outcome <;> simp [Except.map]

theorem mapError_eq_ok {outcome : Except ε α} {change : ε → δ} {out : α} :
    outcome.mapError change = .ok out ↔ outcome = .ok out := by
  cases outcome with
  | error _ =>
    constructor
    · intro h
      cases h
    · intro h
      cases h
  | ok value =>
    change (.ok value : Except δ α) = .ok out ↔ _
    simp only [Except.ok.injEq]

end ToolSchema.Outcome
