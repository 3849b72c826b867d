import ToolSchema.Proofs.Recoverable

/-!
# The round trip between fields and validators

What is read back of a validator can always be compiled. Where the field was recoverable, compiling
it gives the validator again, so that nothing was lost. Whatever a validator was, reading back the
compiled field gives the same field: only the first reading loses anything.
-/

namespace ToolSchema

/-! ## What is read back can be compiled -/

/-- The rules without the bounds and the pattern. -/
def Rules.unbounded (rules : Rules) : Rules :=
  { required := rules.required, custom := rules.custom, default := rules.default }

/-- Checks are read back as bounds and patterns, and as nothing else. -/
theorem Check.unbounded_addTo (kind : FieldKind) (rules : Rules) (check : Check) :
    (Check.addTo kind rules check).unbounded = rules.unbounded := by
  unfold addTo
  split <;> rfl

namespace Validator

/-- Checks are read back as bounds and patterns only. -/
theorem unbounded_fieldRules (v : Validator) :
    v.fieldRules.unbounded = { required := if v.acceptsMissing then some false else none } := by
  rw [fieldRules, rulesOf]
  show _ = Rules.unbounded { required := if v.acceptsMissing then some false else none }
  generalize ({ required := if v.acceptsMissing then some false else none } : Rules) = start
  induction v.checks generalizing start with
  | nil => rfl
  | cons check rest ih => rw [List.foldl_cons, ih, Check.unbounded_addTo]

theorem custom_fieldRules (v : Validator) : v.fieldRules.custom = none :=
  congrArg Rules.custom v.unbounded_fieldRules

theorem default_fieldRules (v : Validator) : v.fieldRules.default = none :=
  congrArg Rules.default v.unbounded_fieldRules

theorem required_fieldRules (v : Validator) :
    v.fieldRules.required = if v.acceptsMissing then some false else none :=
  congrArg Rules.required v.unbounded_fieldRules

@[simp]
theorem name_toField (name : String) (v : Validator) : (v.toField name).name = name := by
  rw [toField_eq]

theorem rules_toField (name : String) (v : Validator) :
    (v.toField name).rules.getD {} = v.fieldRules := by
  rw [toField_eq, Rules.getD_unlessEmpty]

/-- The children of a field that is read back are read back themselves. -/
theorem exists_of_mem_children_toField {v : Validator} {name : String} {child : Field}
    (h : child ∈ (v.toField name).children.getD []) :
    ∃ inner ∈ v.parts, ∃ key, inner.toField key = child := by
  rw [toField_eq] at h
  unfold parts
  cases hkind : v.kind with
  | array item =>
    simp only [hkind, ValidatorKind.fieldChildren, Option.getD_some, List.mem_singleton] at h
    exact ⟨item, List.mem_singleton_self item, itemName, h.symm⟩
  | object fields policy =>
    simp only [hkind, ValidatorKind.fieldChildren, Option.getD_some, List.mem_map] at h
    obtain ⟨pair, hpair, hchild⟩ := h
    exact ⟨pair.2, List.mem_map_of_mem hpair, pair.1, hchild⟩
  | _ => simp [hkind, ValidatorKind.fieldChildren] at h

/-- No custom check is read back, so that none can be unknown. -/
theorem everywhere_customRegistered_toField (predicates : Predicates) (v : Validator) :
    ∀ name, (v.toField name).Everywhere (Field.CustomRegistered predicates) := by
  induction v using partsInduction with
  | step v ih =>
    intro name
    have hcustom : ((v.toField name).rules.getD {}).custom? = none := by
      rw [rules_toField, Rules.custom?, custom_fieldRules]
      rfl
    refine ⟨by simp [Field.CustomRegistered, hcustom], fun part hpart ↦ ?_⟩
    obtain ⟨inner, hinner, key, rfl⟩ := exists_of_mem_children_toField
      (Field.mem_children_of_mem_parts hpart)
    exact ih inner hinner key

end Validator

/-! ## Fields -/

namespace Compiler

variable {compiler : Compiler} {field : Field}

/-- On recoverable fields the round trip through the validator loses nothing: what is read back
compiles to the same validator, declares the same arguments and is emitted as the same module. -/
theorem compile_readBack (hlenient : compiler.options.strict = false)
    (h : field.Everywhere Field.Recoverable) :
    ∃ v, (compiler.compile field).outcome = .ok v ∧
      let back := v.introspect (some field.name)
      (compiler.compile back).outcome = .ok v ∧ back.jsonSchema = field.jsonSchema ∧
        ∀ emitter : Emitter, emitter.moduleText back = emitter.moduleText field := by
  have hregistered : field.Everywhere (Field.CustomRegistered compiler.predicates) :=
    h.imp fun f hf ↦ by simp [Field.CustomRegistered, hf.noCustom]
  have hcompiles := compileShaped_eq_ok hlenient .field hregistered
  have hback : ∀ s : Setting, (field.validator s).introspect (some field.name) =
      field.recovered s field.name := fun s ↦ field.toField_validator s field.name
  have hagain : ∀ s : Setting, (compiler.compile (field.recovered s field.name)).outcome =
      .ok (field.validator (compiler.setting (compiler.options.coercion.resolve .field))) := by
    intro s
    have hregistered := (field.validator s).everywhere_customRegistered_toField
      compiler.predicates field.name
    rw [Field.toField_validator] at hregistered
    calc (compiler.compile (field.recovered s field.name)).outcome
        = .ok ((field.recovered s field.name).validator _) :=
          compileShaped_eq_ok hlenient .field hregistered
      _ = .ok (field.validator _) := by rw [Field.validator_recovered _ h]
  refine ⟨_, hcompiles, ?_⟩
  rw [hback]
  exact ⟨hagain _, Field.jsonSchema_recovered h _, fun emitter ↦ emitter.moduleText_recovered h⟩

/-- A survey: the pattern of the code is malformed and its bound counts for nothing, no state is
named, and only the first child says what the scores are. -/
def survey : Field :=
  { name := "survey"
    kind := .object
    children := some [
      { name := "code", kind := .string, description := some "Code"
        rules := some
          { min := some (.finite (.ofInt 1)), minLength := some 2, regex := some "(" } },
      { name := "state", kind := .enumeration, members := some []
        rules := some { required := some false } },
      { name := "scores", kind := .array
        children := some [
          { kind := .number, rules := some { max := some (.finite (.ofInt 9)), regex := some "" } },
          { kind := .boolean }] }] }

theorem compile_readBack_survey :
    ∃ v, (Compiler.compile {} survey).outcome = .ok v ∧
      (Compiler.compile {} (v.introspect (some "survey"))).outcome = .ok v := by
  have hsurvey : survey.Everywhere Field.Recoverable := by
    refine ⟨⟨by decide, by simp [survey], by decide, by decide, rfl, rfl⟩, ?_⟩
    simp only [survey, Field.parts, List.forall_mem_cons]
    refine ⟨?_, ?_, ?_, List.forall_mem_nil _⟩
    · exact .of_parts_eq_nil ⟨by decide, by simp, by decide, by decide, rfl, rfl⟩ rfl
    · exact .of_parts_eq_nil ⟨by decide, by simp, by decide, by decide, rfl, rfl⟩ rfl
    · refine ⟨⟨by decide, by simp, by decide, by decide, rfl, rfl⟩, ?_⟩
      simp only [Field.parts, List.forall_mem_singleton]
      exact .of_parts_eq_nil ⟨by decide, by simp, by decide, by decide, rfl, rfl⟩ rfl
  have hlenient : ({} : Compiler).options.strict = false := rfl
  obtain ⟨v, hfirst, hagain, -⟩ := compile_readBack hlenient hsurvey
  exact ⟨v, hfirst, hagain⟩

end Compiler

end ToolSchema
