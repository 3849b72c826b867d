import ToolSchema.Proofs.RoundTrip

/-!
# Reading back reaches a fixed point

A validator may be built by hand: its checks may come in any number and on any kind, and it may
stand for nothing that a field says. Reading it back brings it to what fields can say. As long as
it has no empty enumeration, no empty pattern and no bound that is no number, as no compiled
validator has, reading back once more changes nothing.
-/

namespace ToolSchema

/-! ## Rules of a kind -/

/-- A check that rules without strange bounds can ask for: its bound is a number, its pattern is not
empty. -/
def Check.Proper : Check → Prop
  | min bound | max bound => bound ≠ .nan
  | pattern p => p.source ≠ ""
  | unusablePattern source => source ≠ ""
  | minLength _ | maxLength _ => True

namespace Rules

/-- Rules that say only what counts on a kind, and whether the value is required. -/
def OnlyCounting (kind : FieldKind) (rules : Rules) : Prop :=
  { rules.counting kind with required := rules.required } = rules

theorem onlyCounting_required (kind : FieldKind) (required : Option Bool) :
    OnlyCounting kind { required := required } := by
  unfold OnlyCounting
  cases kind <;> rfl

/-- A check that does not count on the kind adds nothing to the rules. -/
theorem OnlyCounting.addTo {kind : FieldKind} {rules : Rules} {check : Check}
    (h : rules.OnlyCounting kind) (hcheck : check.Proper) :
    (Check.addTo kind rules check).OnlyCounting kind := by
  obtain ⟨required, min, max, minLength, maxLength, regex, custom, default⟩ := rules
  -- Checks change rules on two kinds only. There the hypothesis says which constraints are absent.
  cases kind with
  | number =>
    simp only [OnlyCounting, counting, Rules.mk.injEq, true_and] at h
    obtain ⟨rfl, rfl, rfl, rfl, rfl⟩ := h
    cases check <;> rfl
  | string =>
    simp only [OnlyCounting, counting, Rules.mk.injEq, true_and] at h
    obtain ⟨rfl, rfl, hregex, rfl, rfl⟩ := h
    cases check <;> simp_all [Check.addTo, Check.Proper, OnlyCounting, counting, pattern?]
  | _ => exact h

end Rules

namespace Validator

/-- A validator whose fields are a table, as `Validator.object` makes them one, whose enumeration
has members, and whose checks are proper. -/
structure Proper (v : Validator) : Prop where
  fields : ∀ fields policy, v.kind = .object fields policy → (keys fields).Nodup
  members : v.kind ≠ .enumeration []
  checks : ∀ check ∈ v.checks, check.Proper

theorem proper_any : any.Proper := ⟨by simp [any], by simp [any], by simp [any]⟩

theorem onlyCounting_rulesOf (kind : FieldKind) (acceptsMissing : Bool) {checks : List Check}
    (h : ∀ check ∈ checks, check.Proper) :
    (rulesOf kind acceptsMissing checks).OnlyCounting kind := by
  have hfold : ∀ start : Rules, start.OnlyCounting kind →
      (checks.foldl (Check.addTo kind) start).OnlyCounting kind := by
    induction checks with
    | nil => exact fun start hstart ↦ hstart
    | cons check rest ih =>
      rw [List.forall_mem_cons] at h
      exact fun start hstart ↦ ih h.2 _ (hstart.addTo h.1)
  exact hfold _ (Rules.onlyCounting_required kind _)

/-- Rules that were read back say nothing that reading them back again would drop. -/
theorem recovered_fieldRules {v : Validator} (h : v.Proper) :
    v.fieldRules.recovered v.kind.fieldKind v.acceptsMissing = v.fieldRules := by
  have honly : v.fieldRules.OnlyCounting v.kind.fieldKind := onlyCounting_rulesOf _ _ h.checks
  calc v.fieldRules.recovered v.kind.fieldKind v.acceptsMissing
      = { v.fieldRules.counting v.kind.fieldKind with required := v.fieldRules.required } := by
        rw [Rules.recovered, required_fieldRules]
    _ = v.fieldRules := honly

/-! ## Fields that are read back -/

section

variable {s : Setting} {v : Validator} (name : String)

theorem mayBeMissing_toField : (v.toField name).mayBeMissing s = v.acceptsMissing := by
  have hdefault : (v.toField name).default? = none := by
    rw [Field.default?_eq, rules_toField, default_fieldRules]
  have hrequired : (v.toField name).isRequired = !v.acceptsMissing := by
    rw [Field.isRequired_eq, rules_toField, Rules.isRequired, required_fieldRules]
    cases v.acceptsMissing <;> rfl
  calc (v.toField name).mayBeMissing s
      = (!(v.toField name).isRequired || ((v.toField name).default?.bind _).isSome) := rfl
    _ = (!!v.acceptsMissing || false) := by rw [hrequired, hdefault]; rfl
    _ = v.acceptsMissing := by rw [Bool.not_not, Bool.or_false]

theorem members?_toField (h : v.Proper) : (v.toField name).members? = v.kind.fieldMembers := by
  have hmembers := h.members
  rw [toField_eq, Field.members?]
  cases hkind : v.kind with
  | enumeration members =>
    have hne : members ≠ [] := fun heq ↦ hmembers (by rw [hkind, heq])
    simp [ValidatorKind.fieldMembers, hne]
  | _ => rfl

end

theorem recoveredChildren_toField {s : Setting} {v : Validator} (name : String) (h : v.Proper)
    (ih : ∀ part ∈ v.parts, ∀ name, (part.toField name).recovered s name = part.toField name) :
    (v.toField name).recoveredChildren s = v.kind.fieldChildren := by
  have hfields := h.fields
  rw [toField_eq, Field.recoveredChildren]
  cases hkind : v.kind with
  | array item =>
    have hitem := ih item (by simp [parts, hkind]) itemName
    simp [ValidatorKind.fieldKind, ValidatorKind.fieldChildren, hitem]
  | object fields policy =>
    let children := mapValues (fun key part ↦ Validator.toField key part) fields
    have hnamed : Field.named (fun child ↦ child.recovered s child.name)
        (fields.map fun pair ↦ pair.2.toField pair.1) = children := by
      rw [Field.named, List.map_map]
      apply List.map_congr_left
      intro pair hpair
      have hmem : pair.2 ∈ v.parts := by
        simp only [parts, hkind]
        exact List.mem_map_of_mem hpair
      simp [ih pair.2 hmem pair.1]
    have hnodup : (keys children).Nodup := by
      rw [keys_mapValues]
      exact hfields fields policy hkind
    simp only [ValidatorKind.fieldKind, ValidatorKind.fieldChildren]
    rw [hnamed, ← collect_eq_lastUnderEach, collect_of_nodup hnodup]
    simp [children, mapValues]
  | _ => rfl

/-- A field that was read back is its own normal form. -/
theorem recovered_toField {s : Setting} {v : Validator} (h : v.Everywhere Proper) : ∀ name,
    (v.toField name).recovered s name = v.toField name := by
  induction h with
  | @intro v here _ ih =>
    intro name
    have hkind : (v.toField name).kind = v.kind.fieldKind := by rw [toField_eq]
    have hchildren : (v.toField name).children = v.kind.fieldChildren := by rw [toField_eq]
    have hdescription : (v.toField name).description = v.description := by rw [toField_eq]
    have hrecovered : v.kind.fieldKind.recovered v.kind.fieldMembers = v.kind.fieldKind := by
      cases v.kind <;> rfl
    have hmembers : (if v.kind.fieldKind = .enumeration then v.kind.fieldMembers else none) =
        v.kind.fieldMembers := by
      cases v.kind <;> rfl
    rw [Field.recovered_eq, members?_toField name here, rules_toField, mayBeMissing_toField, hkind,
      hdescription, hrecovered, hmembers,
      recoveredChildren_toField name here ih, recovered_fieldRules here, toField_eq]

end Validator

/-! ## Compiled validators -/

namespace Field

/-- The bounds of a field are numbers, if only infinite ones. -/
def BoundsNumeric (field : Field) : Prop :=
  (field.rules.getD {}).min ≠ some .nan ∧ (field.rules.getD {}).max ≠ some .nan

theorem proper_checks {field : Field} (h : field.BoundsNumeric) :
    ∀ check ∈ (field.rules.getD {}).checks field.kind, check.Proper := by
  obtain ⟨hmin, hmax⟩ := h
  intro check hcheck
  unfold Rules.checks at hcheck
  cases hkind : field.kind with
  | number =>
    simp only [hkind, List.mem_append, Option.mem_toList, Option.map_eq_some_iff] at hcheck
    rcases hcheck with ⟨bound, hbound, rfl⟩ | ⟨bound, hbound, rfl⟩
    · exact fun heq ↦ hmin (heq ▸ hbound)
    · exact fun heq ↦ hmax (heq ▸ hbound)
  | string =>
    simp only [hkind, List.mem_append, Option.mem_toList, Option.map_eq_some_iff] at hcheck
    rcases hcheck with (⟨length, -, rfl⟩ | ⟨length, -, rfl⟩) | ⟨source, hsource, rfl⟩
    · exact trivial
    · exact trivial
    · have hne : source ≠ "" := by simpa using (Option.filter_eq_some_iff.mp hsource).2
      unfold Rules.patternCheck
      cases hpattern : Pattern.ofSource? source with
      | none => exact hne
      | some p => exact (Pattern.source_of_ofSource? hpattern).symm ▸ hne
  | _ => simp [hkind] at hcheck

theorem kind_validator (s : Setting) (field : Field) :
    (field.validator s).kind = validatorKind s field.members field.kind field.children := by
  rw [validator_eq]
  rfl

/-- The kinds that the validator of a field can have. Their parts come from the parts of the
field. -/
inductive CompiledKind (s : Setting) (field : Field) : ValidatorKind Validator → Prop
  | any : CompiledKind s field .any
  | string : CompiledKind s field .string
  | number : CompiledKind s field (.number s.coerce)
  | boolean : CompiledKind s field .boolean
  | date (kind : field.kind = .date) : CompiledKind s field (.date s.coerce)
  | enumeration {members : List String} (nonempty : members ≠ []) :
    CompiledKind s field (.enumeration members)
  | items {item : Field} (mem : item ∈ field.parts) :
    CompiledKind s field (.array (item.validator s))
  | anyItems : CompiledKind s field (.array .any)
  | fields :
    CompiledKind s field (.object (collect (named (validator s) field.parts)) s.unknownKeys)
  | noFields : CompiledKind s field (.object [] .passthrough)
  | union {first second : Field} (left : first ∈ field.parts) (right : second ∈ field.parts) :
    CompiledKind s field (.union (first.validator s) (second.validator s))

theorem compiledKind_validator (s : Setting) (field : Field) :
    field.CompiledKind s (field.validator s).kind := by
  rw [kind_validator]
  cases hkind : field.kind with
  | string =>
    rw [validatorKind]
    exact .string
  | number =>
    rw [validatorKind]
    exact .number
  | boolean =>
    rw [validatorKind]
    exact .boolean
  | date =>
    rw [validatorKind]
    exact .date hkind
  | file | calculated | unsupported =>
    rw [validatorKind]
    exact .any
  | enumeration =>
    rw [validatorKind]
    cases hmembers : field.members.filter fun ms ↦ !ms.isEmpty with
    | none => exact .string
    | some members =>
      have hne : members ≠ [] := by simpa using (Option.filter_eq_some_iff.mp hmembers).2
      exact .enumeration hne
  | array =>
    rcases hchildren : field.children with _ | (_ | ⟨item, rest⟩)
    case none | some.nil => exact .anyItems
    case some.cons =>
      rw [validatorKind]
      exact .items (item_mem_parts hkind hchildren)
  | object =>
    cases hchildren : field.children with
    | none => exact .noFields
    | some children =>
      have hparts : field.parts = children := by
        rw [parts_of_object hkind, hchildren, Option.getD_some]
      rw [validatorKind, validators_eq_named, ← hparts]
      exact .fields
  | union =>
    rcases hchildren : field.children with _ | (_ | ⟨first, _ | ⟨second, rest⟩⟩)
    case none | some.nil | some.cons.nil => exact .any
    case some.cons.cons =>
      rw [validatorKind]
      exact .union (first_mem_parts hkind hchildren) (second_mem_parts hkind hchildren)

/-- The parts of a compiled validator come from the parts of its field, but for the items of an
array that does not say what they are. -/
theorem mem_parts_validator {s : Setting} {field : Field} {part : Validator}
    (h : part ∈ (field.validator s).parts) :
    part = .any ∨ ∃ inner ∈ field.parts, inner.validator s = part := by
  have hcompiled := field.compiledKind_validator s
  unfold Validator.parts at h
  generalize (field.validator s).kind = kind at h hcompiled
  cases hcompiled with
  | anyItems => exact .inl (List.mem_singleton.mp h)
  | items hitem => exact .inr ⟨_, hitem, (List.mem_singleton.mp h).symm⟩
  | fields =>
    obtain ⟨pair, hpair, rfl⟩ := List.mem_map.mp h
    obtain ⟨child, hchild, rfl⟩ := List.mem_map.mp (mem_of_mem_collect hpair)
    exact .inr ⟨child, hchild, rfl⟩
  | union hfirst hsecond =>
    simp only [List.mem_cons, List.not_mem_nil, or_false] at h
    rcases h with rfl | rfl
    · exact .inr ⟨_, hfirst, rfl⟩
    · exact .inr ⟨_, hsecond, rfl⟩
  | _ => exact absurd h List.not_mem_nil

/-- What the fields of a tree make true of their validators holds everywhere in the validator of the
whole, if it holds of the items of an array that does not say what they are. -/
theorem Everywhere.validator {s : Setting} {field : Field} {holds : Field → Prop}
    {compiled : Validator → Prop} (h : field.Everywhere holds) (hany : compiled .any)
    (hnode : ∀ node : Field, holds node → compiled (node.validator s)) :
    (field.validator s).Everywhere compiled := by
  induction h with
  | @intro field here _ ih =>
    refine ⟨hnode field here, fun part hpart ↦ ?_⟩
    rcases mem_parts_validator hpart with rfl | ⟨inner, hinner, rfl⟩
    · exact .of_parts_eq_nil hany rfl
    · exact ih inner hinner

theorem proper_validatorKind (s : Setting) (field : Field) :
    (∀ fields policy, (field.validator s).kind = .object fields policy → (keys fields).Nodup) ∧
      (field.validator s).kind ≠ .enumeration [] := by
  have hcompiled := field.compiledKind_validator s
  generalize (field.validator s).kind = kind at hcompiled
  cases hcompiled with
  | fields =>
    refine ⟨fun fields policy heq ↦ ?_, by simp⟩
    obtain ⟨rfl, -⟩ := ValidatorKind.object.inj heq
    exact nodup_keys_collect _
  | enumeration hmembers => simpa using hmembers
  | _ => simp

/-- A compiled validator is proper at every depth, unless a bound is not a number at all. -/
theorem everywhere_proper_validator (s : Setting) {field : Field}
    (h : field.Everywhere BoundsNumeric) : (field.validator s).Everywhere Validator.Proper := by
  refine h.validator Validator.proper_any fun field here ↦ ?_
  obtain ⟨hfields, hmembers⟩ := proper_validatorKind s field
  have hchecks : ∀ check ∈ (field.validator s).checks, check.Proper := by
    rw [validator_eq]
    exact proper_checks here
  exact ⟨hfields, hmembers, hchecks⟩

end Field

namespace Compiler

/-- Reading back reaches a fixed point after one pass: what is read back of a proper validator
compiles, and is then read back as it was. Compiled validators are proper, unless some bound is no
number. -/
theorem introspect_fixed_point :
    (∀ v : Validator, v.Everywhere Validator.Proper → ∀ name,
      ∃ again, (Compiler.compile {} (v.introspect (some name))).outcome = .ok again ∧
        again.introspect (some name) = v.introspect (some name)) ∧
    ∀ (compiler : Compiler) (shape : Shape) (field : Field) (v : Validator),
      field.Everywhere Field.BoundsNumeric →
        (compiler.compileShaped shape field).outcome = .ok v →
          v.Everywhere Validator.Proper := by
  constructor
  · intro v hproper name
    have hregistered := v.everywhere_customRegistered_toField Predicates.builtin name
    refine ⟨_, compileShaped_eq_ok rfl .field hregistered, ?_⟩
    exact calc ((v.toField name).validator _).toField name
        = (v.toField name).recovered _ name := Field.toField_validator _ _ name
      _ = v.toField name := Validator.recovered_toField hproper name
  · intro compiler shape field v hbounds h
    rw [eq_of_yields_compileShaped h]
    exact Field.everywhere_proper_validator _ hbounds

/-- A validator that no field is compiled into: it checks anything at all, and an alternative twice
over, its count has a check for texts and a default, and its label a refinement of its own. -/
def patchwork : Validator :=
  .object [
    ("whatever", Validator.any.check (.maxLength 4)),
    ("either", ((Validator.union .string .boolean).check (.minLength 9)).check (.minLength 2)),
    ("count", ((Validator.number true).check (.minLength 3)).withDefault (.string "three")),
    ("label", (Validator.string.check (.unusablePattern "(")).refine "trimmed" Predicate.trimmed)]

theorem introspect_fixed_point_patchwork :
    ∃ again, (Compiler.compile {} (patchwork.introspect (some "patchwork"))).outcome = .ok again ∧
      again.introspect (some "patchwork") = patchwork.introspect (some "patchwork") := by
  have hleaf : ∀ v : Validator, v.parts = [] ∧ v.kind ≠ .enumeration [] ∧
      (∀ fields policy, v.kind ≠ .object fields policy) ∧ (∀ check ∈ v.checks, check.Proper) →
        v.Everywhere Validator.Proper := by
    rintro v ⟨hparts, hmembers, hfields, hchecks⟩
    exact .of_parts_eq_nil ⟨fun fields policy heq ↦ absurd heq (hfields fields policy),
      hmembers, hchecks⟩ hparts
  have hproper : patchwork.Everywhere Validator.Proper := by
    have hparts : patchwork.parts =
        [Validator.any.check (.maxLength 4),
          ((Validator.union .string .boolean).check (.minLength 9)).check (.minLength 2),
          ((Validator.number true).check (.minLength 3)).withDefault (.string "three"),
          (Validator.string.check (.unusablePattern "(")).refine "trimmed" Predicate.trimmed] := rfl
    refine ⟨⟨fun fields policy heq ↦ ?_, by simp [patchwork, Validator.object],
      by simp [patchwork, Validator.object]⟩, ?_⟩
    · obtain ⟨rfl, -⟩ := ValidatorKind.object.inj heq
      exact nodup_keys_collect _
    rw [hparts]
    simp only [List.forall_mem_cons]
    refine ⟨?_, ?_, ?_, ?_, List.forall_mem_nil _⟩
    · exact hleaf _
        (by simp [Validator.parts, Validator.check, Validator.any, Check.Proper])
    · refine ⟨⟨?_, ?_, ?_⟩, ?_⟩
      · simp [Validator.check, Validator.union]
      · simp [Validator.check, Validator.union]
      · simp [Validator.check, Validator.union, Check.Proper]
      have htext := hleaf .string (by simp [Validator.parts, Validator.string])
      have htruth := hleaf .boolean (by simp [Validator.parts, Validator.boolean])
      exact List.forall_mem_cons.mpr ⟨htext, List.forall_mem_singleton.mpr htruth⟩
    · exact hleaf _ (by simp [Validator.parts, Validator.withDefault, Validator.check,
        Validator.number, Check.Proper])
    · exact hleaf _ (by simp [Validator.parts, Validator.refine, Validator.check,
        Validator.string, Check.Proper])
  exact introspect_fixed_point.1 patchwork hproper "patchwork"

end Compiler

end ToolSchema
