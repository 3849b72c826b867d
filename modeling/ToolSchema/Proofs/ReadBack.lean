import ToolSchema.Proofs.Recovery

/-!
# Reading back what was compiled

Compiling a field and reading the validator back is the same as recovering the field along its tree:
checks go back to the constraints that they came from, a validator accepts a missing value exactly
if its field may be missing, and kinds, members and children go back one by one.
-/

namespace ToolSchema

namespace Rules

/-- A pattern is read back, whether it can be used or not. -/
theorem addTo_patternCheck (rules : Rules) (source : String) :
    Check.addTo .string rules (patternCheck source) = { rules with regex := some source } := by
  unfold patternCheck
  cases h : Pattern.ofSource? source with
  | none => rfl
  | some p =>
    rw [← Pattern.source_of_ofSource? h]
    rfl

/-- The checks that rules stand for are read back as the rules that count. -/
theorem rulesOf_checks (kind : FieldKind) (members? : Option (List String)) (mayBeMissing : Bool)
    (rules : Rules) :
    Validator.rulesOf (kind.recovered members?) mayBeMissing (rules.checks kind) =
      rules.recovered kind mayBeMissing := by
  cases kind with
  | number =>
    unfold checks
    cases hmin : rules.min <;> cases hmax : rules.max <;>
      simp [FieldKind.recovered, Validator.rulesOf, Check.addTo, recovered, counting, hmin, hmax]
  | string =>
    have haddMin : ∀ rules length, Check.addTo .string rules (.minLength length) =
        { rules with minLength := some length } := fun _ _ ↦ rfl
    have haddMax : ∀ rules length, Check.addTo .string rules (.maxLength length) =
        { rules with maxLength := some length } := fun _ _ ↦ rfl
    unfold checks
    cases hmin : rules.minLength <;> cases hmax : rules.maxLength <;>
      cases hpattern : rules.pattern? <;>
      simp [FieldKind.recovered, Validator.rulesOf, addTo_patternCheck, haddMin, haddMax, recovered,
        counting, hmin, hmax, hpattern]
  | _ => rfl

end Rules

namespace Field

variable {s : Setting}

theorem acceptsMissing_validator (field : Field) :
    (field.validator s).acceptsMissing = field.mayBeMissing s := by
  have hdefault : (field.validator s).default =
      field.default?.filter fun value ↦ (field.read s value).isSome := by
    rw [validator_eq, Validator.default_withRules, ← validator_eq, default?_eq]
    simp only [value?_judge_validator]
  have hkept : (field.validator s).default.isSome =
      (field.default?.bind (field.read s)).isSome := by
    rw [hdefault]
    cases field.default? with
    | none => rfl
    | some value => cases h : field.read s value <;> simp [Option.filter_some, h]
  have hoptional : (field.validator s).optional = !field.isRequired := by
    rw [validator_eq, Validator.optional_withRules, isRequired_eq]
  calc (field.validator s).acceptsMissing
      = ((field.validator s).optional || (field.validator s).default.isSome) := rfl
    _ = (!field.isRequired || (field.default?.bind (field.read s)).isSome) := by
        rw [hoptional, hkept]
    _ = field.mayBeMissing s := rfl

/-- Of the kind of a field the same is read back as along the field, if that holds of the
children. -/
theorem readBack_validatorKind (field : Field)
    (ih : ∀ child ∈ field.children.getD [], ∀ name,
      (child.validator s).toField name = child.recovered s name) :
    let kind := validatorKind s field.members field.kind field.children
    kind.fieldKind = field.kind.recovered field.members? ∧
      kind.fieldMembers = (if field.kind = .enumeration then field.members? else none) ∧
      kind.fieldChildren = field.recoveredChildren s := by
  unfold recoveredChildren
  cases hkind : field.kind with
  | enumeration =>
    rw [validatorKind]
    unfold members?
    cases field.members.filter fun ms ↦ !ms.isEmpty <;> exact ⟨rfl, rfl, rfl⟩
  | array =>
    rcases hchildren : field.children with _ | (_ | ⟨item, rest⟩)
    case none | some.nil => exact ⟨rfl, rfl, rfl⟩
    case some.cons =>
      have hitem := ih item (by simp [hchildren]) Validator.itemName
      rw [validatorKind]
      exact ⟨rfl, rfl, by simp [ValidatorKind.fieldChildren, hitem]⟩
  | object =>
    cases hchildren : field.children with
    | none => exact ⟨rfl, rfl, rfl⟩
    | some children =>
      have hnamed : mapValues (fun name v ↦ Validator.toField name v) (validators s children) =
          named (fun child ↦ child.recovered s child.name) children := by
        rw [validators_eq_named, mapValues, named, named, List.map_map]
        apply List.map_congr_left
        intro child hchild
        have hmem : child ∈ field.children.getD [] := by simpa [hchildren] using hchild
        exact congrArg (Prod.mk child.name) (ih child hmem child.name)
      rw [validatorKind]
      refine ⟨rfl, rfl, congrArg some ?_⟩
      calc (collect (validators s children)).map (fun pair ↦ pair.2.toField pair.1)
          = (mapValues (fun name v ↦ Validator.toField name v)
              (collect (validators s children))).map Prod.snd := by
            rw [mapValues, List.map_map]
            rfl
        _ = (lastUnderEach (named (fun child ↦ child.recovered s child.name) children)).map
              Prod.snd := by
            rw [← collect_mapValues, hnamed, collect_eq_lastUnderEach]
  | union =>
    rcases hchildren : field.children with _ | (_ | ⟨first, _ | ⟨second, rest⟩⟩)
    case none | some.nil | some.cons.nil => exact ⟨rfl, rfl, rfl⟩
    case some.cons.cons =>
      rw [validatorKind]
      exact ⟨rfl, rfl, rfl⟩
  | _ =>
    rw [validatorKind]
    exact ⟨rfl, rfl, rfl⟩

/-- What is read back of the validator of a field is what is read back along the field. -/
theorem toField_validator (s : Setting) (field : Field) : ∀ name,
    (field.validator s).toField name = field.recovered s name := by
  induction field using childrenInduction with
  | step field ih =>
    intro name
    obtain ⟨hkind, hmembers, hchildren⟩ := readBack_validatorKind field ih
    have hrules : (field.validator s).fieldRules =
        (field.rules.getD {}).recovered field.kind (field.mayBeMissing s) := by
      rw [Validator.fieldRules, acceptsMissing_validator, validator_eq]
      show Validator.rulesOf (validatorKind s field.members field.kind field.children).fieldKind _
        ((field.rules.getD {}).checks field.kind) = _
      rw [hkind, Rules.rulesOf_checks]
    rw [Validator.toField_eq, recovered_eq, hrules, validator_eq]
    simp only [ValidatorKind.withRules, hkind, hmembers, hchildren]

end Field

end ToolSchema
