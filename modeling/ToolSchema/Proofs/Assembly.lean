import ToolSchema.Proofs.Compiled
import ToolSchema.Proofs.Table

/-!
# What fields are compiled into

Whatever the path and however strict the options, compiling a field can yield one validator only,
and that validator is a plain function of the tree of fields: the kind, the checks and the
refinement come from the field alone, and the default is kept if the validator accepts it.
-/

namespace ToolSchema

/-- What counts when a field is read: the registered predicates, whether numbers and dates may come
in other forms, and the policy for undeclared keys. -/
structure Setting where
  predicates : Predicates
  coerce : Bool
  unknownKeys : UnknownKeys

namespace Rules

def patternCheck (source : String) : Check :=
  match Pattern.ofSource? source with
  | some pattern => .pattern pattern
  | none => .unusablePattern source

/-- The checks that rules stand for on a kind. -/
def checks (kind : FieldKind) (rules : Rules) : List Check :=
  match kind with
  | .number => (rules.min.map .min).toList ++ (rules.max.map .max).toList
  | .string =>
    (rules.minLength.map .minLength).toList ++ (rules.maxLength.map .maxLength).toList ++
      (rules.pattern?.map patternCheck).toList
  | _ => []

/-- The refinements that rules stand for: one, if they name a registered predicate. -/
def refinements (predicates : Predicates) (rules : Rules) : List Refinement :=
  (rules.custom?.bind fun name ↦ (predicates.get? name).map (Refinement.mk name)).toList

end Rules

/-- The validator of a kind under the rules of a field. -/
def ValidatorKind.withRules (predicates : Predicates) (kind : FieldKind) (rules? : Option Rules)
    (description : Option String) (base : ValidatorKind Validator) : Validator :=
  let rules := rules?.getD {}
  let bare : Validator :=
    { kind := base
      optional := !rules.isRequired
      checks := rules.checks kind
      refinements := rules.refinements predicates }
  { bare with default := rules.default.filter bare.accepts, description := description }

namespace Field

mutual
/-- The validator that a field stands for. -/
def validator (s : Setting) : Field → Validator
  | ⟨_, kind, description, rules, members, children, _⟩ =>
    (validatorKind s members kind children).withRules s.predicates kind rules description

def validatorKind (s : Setting) (members : Option (List String)) :
    FieldKind → Option (List Field) → ValidatorKind Validator
  | .string, _ => .string
  | .number, _ => .number s.coerce
  | .boolean, _ => .boolean
  | .date, _ => .date s.coerce
  | .enumeration, _ =>
    match members.filter fun ms ↦ !ms.isEmpty with
    | some members => .enumeration members
    | none => .string
  | .array, some (item :: _) => .array (validator s item)
  | .array, _ => .array .any
  | .object, some fields => .object (collect (validators s fields)) s.unknownKeys
  | .object, none => .object [] .passthrough
  | .union, some (first :: second :: _) => .union (validator s first) (validator s second)
  | .union, _ => .any
  | .file, _ => .any
  | .calculated, _ => .any
  | .unsupported, _ => .any

def validators (s : Setting) : List Field → List (String × Validator)
  | [] => []
  | field :: rest => (field.name, validator s field) :: validators s rest
end

theorem validator_eq (s : Setting) (field : Field) :
    field.validator s =
      (validatorKind s field.members field.kind field.children).withRules s.predicates field.kind
        field.rules field.description := by
  obtain ⟨name, kind, description, rules, members, children, calculation⟩ := field
  rw [validator]

end Field

namespace Validator

def withChecks (v : Validator) (checks : List Check) : Validator :=
  { v with checks := v.checks ++ checks }

@[simp]
theorem withChecks_nil (v : Validator) : v.withChecks [] = v := by
  cases v
  rw [withChecks, List.append_nil]

@[simp]
theorem withChecks_withChecks (v : Validator) (first second : List Check) :
    (v.withChecks first).withChecks second = v.withChecks (first ++ second) := by
  simp [withChecks]

theorem check_eq_withChecks (v : Validator) (check : Check) :
    v.check check = v.withChecks [check] := rfl

end Validator

namespace Compiler

open Compiled

variable {compiler : Compiler} {path : FieldPath} {rules : Rules} {v out : Validator}

theorem addCheck_eq {α : Type} (check : α → Check) (bound : Option α) (v : Validator) :
    addCheck check bound v = v.withChecks (bound.map check).toList := by
  cases bound with
  | none => exact v.withChecks_nil.symm
  | some bound => rfl

/-- A pattern that cannot be used becomes a check as well, where the compiler goes on. -/
theorem eq_of_yields_addPattern {source? : Option String}
    (h : (compiler.addPattern path source? v).Yields out) :
    out = v.withChecks (source?.map Rules.patternCheck).toList := by
  unfold addPattern at h
  cases source? with
  | none => simpa using (Compiled.yields_pure.mp h).symm
  | some source =>
    cases hp : Pattern.ofSource? source with
    | some pattern =>
      simp only [hp, yields_pure, Validator.check_eq_withChecks] at h
      simpa [Rules.patternCheck, hp] using h.symm
    | none =>
      simp only [hp, yields_bind, yields_pure, Validator.check_eq_withChecks] at h
      obtain ⟨_, _, h⟩ := h
      simpa [Rules.patternCheck, hp] using h.symm

theorem eq_of_yields_addChecks {kind : FieldKind}
    (h : (compiler.addChecks path kind rules v).Yields out) :
    out = v.withChecks (rules.checks kind) := by
  unfold addChecks at h
  unfold Rules.checks
  split at h
  · simpa [addCheck_eq] using (Compiled.yields_pure.mp h).symm
  · simpa [addCheck_eq] using eq_of_yields_addPattern h
  · next hnumber hstring =>
    simpa using (Compiled.yields_pure.mp h).symm

theorem eq_of_yields_addCustom
    (h : (compiler.addCustom path rules v).Yields out) :
    out = { v with refinements := v.refinements ++ rules.refinements compiler.predicates } := by
  unfold addCustom at h
  unfold Rules.refinements
  cases hcustom : rules.custom? with
  | none =>
    simp only [hcustom, yields_pure] at h
    cases v
    simp only [← h, Option.bind_none, Option.toList_none, List.append_nil]
  | some name =>
    cases hpredicate : compiler.predicates.get? name with
    | none => simp [hcustom, hpredicate] at h
    | some predicate =>
      simp only [hcustom, hpredicate, yields_pure] at h
      simp [hpredicate, ← h, Validator.refine]

/-- A default is kept exactly if the validator accepts it; a lenient compiler drops all others. -/
theorem eq_of_yields_addDefault (hv : v.default = none)
    (h : (compiler.addDefault path rules v).Yields out) :
    out = { v with default := rules.default.filter v.accepts } := by
  unfold addDefault at h
  cases hdefault : rules.default with
  | none =>
    simp only [hdefault, yields_pure] at h
    cases v
    rw [Option.filter_none, ← hv, ← h]
  | some value =>
    cases hvalid : v.validate value with
    | ok parsed =>
      simp only [hdefault, hvalid, yields_pure] at h
      have haccepts : v.accepts value := by
        simp [Validator.accepts, hvalid, Except.isOk, Except.toBool]
      rw [Option.filter_some, if_pos haccepts, ← h]
      rfl
    | error rejection =>
      simp only [hdefault, hvalid, yields_bind, yields_pure] at h
      obtain ⟨_, _, h⟩ := h
      have hrefuses : v.accepts value = false := by
        simp [Validator.accepts, hvalid, Except.isOk, Except.toBool]
      rw [Option.filter_some, if_neg (Bool.eq_false_iff.mp hrefuses), ← hv, ← h]
      cases v
      rfl

theorem addDescription_eq (description : Option String) (hv : v.description = none) :
    addDescription description v = { v with description := description } := by
  cases description with
  | none =>
    cases v
    rw [addDescription, ← hv]
  | some text => rfl

/-- All that laying rules over a kind does. -/
theorem eq_of_yields_addRules {kind : FieldKind} {rules? : Option Rules}
    {description : Option String} {base : ValidatorKind Validator}
    (h : (compiler.addRules path kind rules? description { kind := base }).Yields out) :
    out = base.withRules compiler.predicates kind rules? description := by
  unfold addRules at h
  cases rules? with
  | none =>
    simp only [yields_pure] at h
    rw [← h, addDescription_eq description rfl]
    cases kind <;> rfl
  | some rules =>
    simp only [yields_bind, yields_pure] at h
    obtain ⟨checked, hchecked, refined, hrefined, defaulted, hdefaulted, rfl⟩ := h
    obtain rfl := eq_of_yields_addChecks hchecked
    obtain rfl := eq_of_yields_addCustom hrefined
    have hnone : (if rules.isRequired then ({ kind := base } : Validator) else
        Validator.makeOptional { kind := base }).default = none := by split <;> rfl
    obtain rfl := eq_of_yields_addDefault (by exact hnone) hdefaulted
    rw [addDescription_eq description (by split <;> rfl)]
    cases hrequired : rules.isRequired <;>
      simp [ValidatorKind.withRules, Validator.withChecks, Validator.makeOptional, hrequired]

def setting (compiler : Compiler) (coerce : Bool) : Setting :=
  ⟨compiler.predicates, coerce, compiler.options.unknownKeys⟩

theorem compileAt_eq (compiler : Compiler) (coerce : Bool) (path : FieldPath) (field : Field) :
    compiler.compileAt coerce path field =
      compiler.compileKind coerce path field.members field.kind field.children >>=
        compiler.addRules path field.kind field.rules field.description := by
  obtain ⟨name, kind, description, rules, members, children, calculation⟩ := field
  rw [compileAt]

mutual
/-- If a compiler yields a validator for a field, it is the one that the field stands for.
Strictness only decides whether there is one. -/
theorem eq_of_yields_compileAt (compiler : Compiler) (coerce : Bool) : (field : Field) →
    {path : FieldPath} → {out : Validator} → (compiler.compileAt coerce path field).Yields out →
    out = field.validator (compiler.setting coerce)
  | ⟨name, kind, description, rules, members, children, calculation⟩, path, out, h => by
    rw [compileAt, yields_bind] at h
    obtain ⟨base, hbase, hrules⟩ := h
    rw [eq_of_yields_compileKind compiler coerce members kind children hbase] at hrules
    rw [Field.validator]
    exact eq_of_yields_addRules hrules

theorem eq_of_yields_compileKind (compiler : Compiler) (coerce : Bool)
    (members : Option (List String)) : (kind : FieldKind) → (children : Option (List Field)) →
    {path : FieldPath} → {out : Validator} →
    (compiler.compileKind coerce path members kind children).Yields out →
    out = { kind := Field.validatorKind (compiler.setting coerce) members kind children }
  | .string, _, path, out, h | .number, _, path, out, h | .boolean, _, path, out, h
  | .date, _, path, out, h | .file, _, path, out, h | .calculated, _, path, out, h => by
    simp only [compileKind, yields_pure] at h
    rw [Field.validatorKind, ← h]
    rfl
  | .enumeration, _, path, out, h => by
    rw [compileKind] at h
    rw [Field.validatorKind]
    cases hmembers : members.filter fun ms ↦ !ms.isEmpty with
    | some literals =>
      simp only [hmembers, yields_pure] at h
      exact h.symm
    | none =>
      simp only [hmembers, yields_bind, yields_pure] at h
      obtain ⟨_, _, h⟩ := h
      exact h.symm
  | .array, some (item :: _), path, out, h => by
    simp only [compileKind, yields_bind, yields_pure] at h
    obtain ⟨compiled, hitem, rfl⟩ := h
    rw [eq_of_yields_compileAt compiler coerce item hitem, Field.validatorKind]
    rfl
  | .array, some [], path, out, h => (yields_pure.mp h).symm
  | .array, none, path, out, h => (yields_pure.mp h).symm
  | .object, some fields, path, out, h => by
    simp only [compileKind, yields_bind, yields_pure] at h
    obtain ⟨table, htable, rfl⟩ := h
    rw [eq_of_yields_compileFields compiler coerce fields htable, Field.validatorKind,
      Validator.object, ← collect_eq_write, collect_collect]
    rfl
  | .object, none, path, out, h => (yields_pure.mp h).symm
  | .union, some (first :: second :: rest), path, out, h => by
    simp only [compileKind, yields_bind, yields_both, yields_pure] at h
    obtain ⟨_, _, ⟨left, right⟩, ⟨hleft, hright⟩, rfl⟩ := h
    rw [eq_of_yields_compileAt compiler coerce first hleft,
      eq_of_yields_compileAt compiler coerce second hright, Field.validatorKind]
    rfl
  | .union, some [_], path, out, h => by
    obtain ⟨_, _, h⟩ := yields_bind.mp h
    exact (yields_pure.mp h).symm
  | .union, some [], path, out, h => by
    obtain ⟨_, _, h⟩ := yields_bind.mp h
    exact (yields_pure.mp h).symm
  | .union, none, path, out, h => by
    obtain ⟨_, _, h⟩ := yields_bind.mp h
    exact (yields_pure.mp h).symm
  | .unsupported, _, path, out, h => by
    simp only [compileKind, yields_bind, yields_pure] at h
    obtain ⟨_, _, h⟩ := h
    rw [Field.validatorKind, ← h]
    rfl

/-- The validators of fields are written into the table one after the other, so that the last one
under a name counts. -/
theorem eq_of_yields_compileFields (compiler : Compiler) (coerce : Bool) : (fields : List Field) →
    {path : FieldPath} → {table out : List (String × Validator)} →
    (compiler.compileFields coerce path table fields).Yields out →
    out = write table (Field.validators (compiler.setting coerce) fields)
  | [], path, table, out, h => by
    rw [compileFields] at h
    exact (yields_pure.mp h).symm
  | field :: rest, path, table, out, h => by
    simp only [compileFields, yields_bind] at h
    obtain ⟨compiled, hfield, _, _, hrest⟩ := h
    rw [eq_of_yields_compileFields compiler coerce rest hrest,
      eq_of_yields_compileAt compiler coerce field hfield, Field.validators, write_cons]
end

/-- Compiling a field can yield nothing but the validator that the field stands for. -/
theorem eq_of_yields_compileShaped {shape : Shape} {field : Field}
    (h : (compiler.compileShaped shape field).Yields out) :
    out = field.validator (compiler.setting (compiler.options.coercion.resolve shape)) := by
  simp only [compileShaped, yields_bind, yields_pure] at h
  obtain ⟨compiled, hfield, _, _, rfl⟩ := h
  exact eq_of_yields_compileAt _ _ field hfield

end Compiler

end ToolSchema
