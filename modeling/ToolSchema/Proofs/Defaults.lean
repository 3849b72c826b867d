import ToolSchema.Proofs.FixedPoint
import ToolSchema.Proofs.Outcomes
import ToolSchema.Proofs.Reports
import ToolSchema.Proofs.RequiredKeys

/-!
# Defaults of compiled validators

A default is laid over a field's validator only after the validator has passed it. Nothing that is
added later takes part in the decision, so at every depth of a compiled validator the default passes
where it stands: a missing value is filled in, and what it is filled in with is never refused. Hence
a validator accepts a missing value exactly if it says so.
-/

namespace ToolSchema

namespace Validator

/-- The default of a validator, if there is one, passes. -/
def DefaultPasses (v : Validator) : Prop := ∀ default ∈ v.default, v.accepts default

/-- No key of an object stands for two fields, as in a table. -/
def FieldsDistinct (v : Validator) : Prop :=
  ∀ fields policy, v.kind = .object fields policy → (keys fields).Nodup

variable {v : Validator} {default out : Json}

/-! ## Missing values -/

theorem validateOptional_some_eq (v : Validator) (value : Json) :
    v.validateOptional (some value) = (v.validate value).map some := by
  rw [validateOptional_eq, validate_eq]
  cases hvalue : (v.judge (some value)).value? with
  | some out => rw [if_pos ((decided_judge v value).issues_eq_nil hvalue), Except.map]
  | none => rw [if_neg ((decided_judge v value).issues_ne_nil hvalue), Except.map]

/-- A missing value is validated as the default is. -/
theorem validateOptional_none_of_default (h : v.default = some default) :
    v.validateOptional none = (v.validate default).map some := by
  calc v.validateOptional none
      = v.validateOptional (some default) := by
        rw [validateOptional_eq, validateOptional_eq, judge_none, h]
    _ = (v.validate default).map some := v.validateOptional_some_eq default

/-- What a default fills in is what it is validated to. -/
theorem validateOptional_none_eq_some_iff (h : v.default = some default) :
    v.validateOptional none = .ok (some out) ↔ v.validate default = .ok out := by
  rw [validateOptional_none_of_default h, Outcome.map_eq_ok]
  simp

theorem validateOptional_none_of_no_default (h : v.default = none) :
    v.validateOptional none =
      if v.optional then .ok none else .error (.single .root .missing) := by
  rw [validateOptional_eq, judge_none, h]
  cases v.optional <;> rfl

theorem DefaultPasses.exists_validate (h : v.DefaultPasses) (hdefault : v.default = some default) :
    ∃ out, v.validate default = .ok out := by
  have haccepts := accepts_iff.mp (h default hdefault)
  obtain ⟨out, hout⟩ := Option.isSome_iff_exists.mp haccepts
  exact ⟨out, validate_eq_ok_iff.mpr hout⟩

/-- Whether a missing value passes can be told without validating anything, as the default is known
to pass. -/
theorem DefaultPasses.acceptsMissing_iff (h : v.DefaultPasses) :
    v.acceptsMissing ↔ ∃ out?, v.validateOptional none = .ok out? := by
  rw [acceptsMissing]
  cases hdefault : v.default with
  | some default =>
    obtain ⟨out, hout⟩ := h.exists_validate hdefault
    rw [validateOptional_none_of_default hdefault, hout]
    simp [Except.map]
  | none =>
    rw [validateOptional_none_of_no_default hdefault]
    cases v.optional <;> simp

/-- Nothing is found where a default is filled in. -/
theorem DefaultPasses.found_none (h : v.DefaultPasses) (hdefault : v.default = some default) :
    v.found none = [] := by
  have hpasses := accepts_iff.mp (h default hdefault)
  rw [found_eq, judge_none, hdefault]
  exact (decided_judge v default).mp hpasses

/-- The member of an object that is filled in has no issues, nor has anything below it. -/
theorem filter_isBelow_key_of_default {fields : List (String × Validator)} {policy : UnknownKeys}
    (hkind : v.kind = .object fields policy) (hdistinct : (keys fields).Nodup) {key : String}
    {field : Validator} (hfield : (key, field) ∈ fields) (hpasses : field.DefaultPasses)
    (hdefault : field.default = some default) {members : List (String × Json)}
    (hlacks : key ∉ keys members) :
    (v.found (some (.object members))).filter (Issue.isBelow ⟨[.key key]⟩) = [] := by
  rw [filter_isBelow_key hkind hdistinct hfield, lookup_eq_none_iff.mpr hlacks,
    hpasses.found_none hdefault, List.map_nil]

end Validator

/-! ## Compiled validators -/

/-- At every depth of the validator that a field stands for, the default passes. -/
theorem Field.everywhere_defaultPasses_validator (s : Setting) (field : Field) :
    (field.validator s).Everywhere Validator.DefaultPasses := by
  refine (Everywhere.of_forall (fun _ ↦ trivial) field).validator ?_ fun node _ ↦ ?_
  · simp [Validator.DefaultPasses, Validator.any]
  · exact fun default hdefault ↦ accepts_of_default_validator hdefault

/-- At every depth of the validator that a field stands for, an object has each key once. -/
theorem Field.everywhere_fieldsDistinct_validator (s : Setting) (field : Field) :
    (field.validator s).Everywhere Validator.FieldsDistinct := by
  refine (Everywhere.of_forall (fun _ ↦ trivial) field).validator ?_ fun node _ ↦ ?_
  · simp [Validator.FieldsDistinct, Validator.any]
  · exact (proper_validatorKind s node).1

namespace Compiler

/-- Every default that a compiled validator has kept is good, at every depth and whatever the
options: it passes, and a missing value is what it gives. A missing value is accepted exactly where
the validator says so, and no object has an issue for the lack of a key whose field has a default.
-/
theorem everywhere_default_fills_in {compiler : Compiler} {shape : Shape} {field : Field}
    {v : Validator} (h : (compiler.compileShaped shape field).outcome = .ok v) :
    v.Everywhere fun node ↦
      (∀ default ∈ node.default, ∃ out,
        node.validate default = .ok out ∧ node.validateOptional none = .ok (some out)) ∧
      (node.acceptsMissing ↔ ∃ out?, node.validateOptional none = .ok out?) ∧
      ∀ fields policy, node.kind = .object fields policy → ∀ key part, (key, part) ∈ fields →
        part.default.isSome → ∀ members, key ∉ keys members →
          (node.found (some (.object members))).filter (Issue.isBelow ⟨[.key key]⟩) = [] := by
  obtain rfl := eq_of_yields_compileShaped h
  let s := compiler.setting (compiler.options.coercion.resolve shape)
  have hpasses := Field.everywhere_defaultPasses_validator s field
  have hdistinct := Field.everywhere_fieldsDistinct_validator s field
  apply (hpasses.nested.and hdistinct).imp
  rintro node ⟨hnode, hfields⟩
  refine ⟨?_, hnode.here.acceptsMissing_iff, ?_⟩
  · intro default hdefault
    obtain ⟨out, hout⟩ := hnode.here.exists_validate hdefault
    refine ⟨out, hout, ?_⟩
    rw [Validator.validateOptional_none_of_default hdefault, hout, Except.map]
  · intro fields policy hkind key part hpart hdefault members hlacks
    obtain ⟨default, hdefault⟩ := Option.isSome_iff_exists.mp hdefault
    have hmem : part ∈ node.parts := by
      rw [Validator.parts, hkind]
      exact List.mem_map_of_mem hpart
    exact Validator.filter_isBelow_key_of_default hkind (hfields fields policy hkind) hpart
      (hnode.part part hmem).here hdefault hlacks

/-- A traveller: the age is by default a numeric text, and the address an object without members,
whose city is filled in by itself. -/
def traveller : Field :=
  let city : Field :=
    { name := "city", kind := .string, rules := some { default := some (.string "Rome") } }
  { kind := .object
    children := some [
      { name := "age", kind := .number
        rules := some { min := some (.finite (.ofInt 1)), default := some (.string " 30 ") } },
      { name := "address", kind := .object, children := some [city]
        rules := some { default := some (.object []) } },
      { name := "visa", kind := .boolean
        rules := some { required := some false, default := some (.string "yes") } }] }

/-- The defaults of a traveller's age and address are kept, and fill in what is missing; that of the
visa is dropped. -/
theorem traveller_default_fills_in :
    ∃ v, (Compiler.compile {} traveller).outcome = .ok v ∧
      v.validate (.object []) = .ok (.object
        [("age", .ofInt 30), ("address", .object [("city", .string "Rome")])]) ∧
      (v.acceptsMissing ↔ ∃ out?, v.validateOptional none = .ok out?) ∧
      (v.found (some (.object []))).filter (Issue.isBelow ⟨[.key "address"]⟩) = [] := by
  have h : (Compiler.compile {} traveller).outcome =
      .ok (traveller.validator (Compiler.setting {} true)) := by rfl
  obtain ⟨-, hmissing, hmembers⟩ := (everywhere_default_fills_in h).here
  refine ⟨_, h, by cbv, hmissing, ?_⟩
  exact hmembers _ _ rfl "address" _ (.tail _ (.head _)) rfl [] (List.not_mem_nil)

end Compiler

end ToolSchema
