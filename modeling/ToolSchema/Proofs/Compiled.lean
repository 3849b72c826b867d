import ToolSchema.Compile

/-!
# Laws of compilations

A compilation yields a value if it ends without an error. A sequence yields what its last step does,
where every step before it yields something; degrading yields nothing where the options are strict.
-/

namespace ToolSchema

namespace Compiled

variable {α β : Type}

/-- A compilation yields a value if it ends without an error. -/
def Yields (compiled : Compiled α) (value : α) : Prop := compiled.outcome = .ok value

@[simp]
theorem yields_pure {value out : α} : (pure value : Compiled α).Yields out ↔ value = out := by
  show Except.ok value = .ok out ↔ value = out
  simp

@[simp]
theorem yields_bind {first : Compiled α} {next : α → Compiled β} {out : β} :
    (first >>= next).Yields out ↔ ∃ value, first.Yields value ∧ (next value).Yields out := by
  obtain ⟨events, outcome⟩ := first
  cases outcome with
  | error error =>
    constructor
    · intro h; cases h
    · rintro ⟨value, h, -⟩
      cases h
  | ok value =>
    constructor
    · intro h
      exact ⟨value, rfl, h⟩
    · rintro ⟨other, h, hnext⟩
      obtain rfl := Except.ok.inj h
      exact hnext

@[simp]
theorem yields_event {e : Event} {out : Unit} : (event e).Yields out := rfl

@[simp]
theorem not_yields_fail {error : SchemaError} {out : α} :
    ¬ (fail error : Compiled α).Yields out := by
  intro h
  cases h

@[simp]
theorem yields_both {first second : Compiled α} {out : α × α} :
    (both first second).Yields out ↔ first.Yields out.1 ∧ second.Yields out.2 := by
  obtain ⟨_, outcome⟩ := first
  obtain ⟨_, other⟩ := second
  obtain ⟨a, b⟩ := out
  cases outcome <;> cases other <;> simp [both, Yields, Bind.bind, Except.bind]

end Compiled

namespace Compiler

/-- Only lenient compilers survive a degradation. -/
@[simp]
theorem yields_degrade {compiler : Compiler} {path : FieldPath} {degradation : Degradation}
    {out : Unit} :
    (compiler.degrade path degradation).Yields out ↔ compiler.options.strict = false := by
  unfold degrade
  cases compiler.options.strict <;> simp

end Compiler

end ToolSchema
