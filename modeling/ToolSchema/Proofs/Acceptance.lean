import ToolSchema.Proofs.Reading
import Mathlib

/-!
# Validators accept what fields read

A validator finds out about a value by walking it, with its checks, its refinements and the verdicts
on the parts. The field that it stands for says directly what it reads. Both agree on every value:
the checks on the constraints, the verdicts on lists and objects on the reading of their parts, and
the defaults on what is read where a member is missing.
-/

namespace ToolSchema

/-! ## Checks and refinements -/

theorem objections_eq_nil_iff {checks : List Check} {refinements : List Refinement} {value : Json} :
    objections checks refinements value = [] ↔
      (∀ check ∈ checks, check.failure? value = none) ∧
        ∀ refinement ∈ refinements, refinement.predicate value := by
  unfold objections
  cases hfailed : checks.filterMap (Check.failure? value) with
  | nil =>
    have hchecks : ∀ check ∈ checks, check.failure? value = none :=
      List.filterMap_eq_nil_iff.mp hfailed
    simpa using fun _ ↦ hchecks
  | cons reason rest =>
    have hchecks : ¬ ∀ check ∈ checks, check.failure? value = none := by
      intro h
      rw [List.filterMap_eq_nil_iff.mpr h] at hfailed
      cases hfailed
    simp [hchecks]

/-- Checks and refinements can only take a value away. -/
theorem Verdict.value?_conclude (checks : List Check) (refinements : List Refinement)
    (verdict : Verdict) :
    (verdict.conclude checks refinements).value? =
      verdict.value?.filter fun value ↦ objections checks refinements value = [] := by
  unfold Verdict.conclude
  cases h : verdict.value? with
  | none => simp [h]
  | some value => simp [Option.filter_some]

namespace Check

theorem failure?_min_eq_none_iff {bound : Double} {value : Json} :
    (min bound).failure? value = none ↔
      ∀ x ∈ value.number?, !(Double.finite x).lt bound := by
  simp [failure?, Option.filter_eq_none_iff]

theorem failure?_max_eq_none_iff {bound : Double} {value : Json} :
    (max bound).failure? value = none ↔
      ∀ x ∈ value.number?, !bound.lt (.finite x) := by
  simp [failure?, Option.filter_eq_none_iff]

theorem failure?_minLength_eq_none_iff {length : UInt64} {value : Json} :
    (minLength length).failure? value = none ↔
      ∀ text ∈ value.text?, length.toNat ≤ text.length := by
  simp [failure?, Option.filter_eq_none_iff]

theorem failure?_maxLength_eq_none_iff {length : UInt64} {value : Json} :
    (maxLength length).failure? value = none ↔
      ∀ text ∈ value.text?, text.length ≤ length.toNat := by
  simp [failure?, Option.filter_eq_none_iff]

theorem failure?_patternCheck_eq_none_iff {source : String} {value : Json} :
    (Rules.patternCheck source).failure? value = none ↔
      ∀ text ∈ value.text?, (Pattern.ofSource? source).any fun p ↦ p.matchesText text := by
  unfold Rules.patternCheck
  cases Pattern.ofSource? source with
  | some p => simp [failure?, Option.filter_eq_none_iff]
  | none => simp [failure?, Option.eq_none_iff_forall_ne_some]

end Check

namespace Rules

variable {predicates : Predicates} {kind : FieldKind} {rules : Rules} {value : Json}

/-- A custom check that is not registered is no refinement, and admits everything. -/
theorem forall_refinements_iff :
    (∀ refinement ∈ rules.refinements predicates, refinement.predicate value) ↔
      rules.admitsCustom predicates value := by
  unfold refinements admitsCustom
  cases rules.custom? with
  | none => simp
  | some name => cases h : predicates.get? name <;> simp [h]

/-- On numbers the checks are the bounds. What is no number passes them all. -/
theorem forall_checks_number_iff :
    (∀ check ∈ rules.checks .number, check.failure? value = none) ↔
      ∀ x ∈ value.number?, rules.admitsNumber x := by
  simp only [checks, List.forall_mem_append, Option.toList_map, List.forall_mem_map,
    Option.mem_toList, Check.failure?_min_eq_none_iff, Check.failure?_max_eq_none_iff, admitsNumber,
    Bool.and_eq_true, Option.all_eq_true, Option.mem_def]
  grind

/-- On texts the checks are the lengths and the pattern. What is no text passes them all. -/
theorem forall_checks_string_iff :
    (∀ check ∈ rules.checks .string, check.failure? value = none) ↔
      ∀ text ∈ value.text?, rules.admitsText text := by
  simp only [checks, List.forall_mem_append, Option.toList_map, List.forall_mem_map,
    Option.mem_toList, Check.failure?_minLength_eq_none_iff, Check.failure?_maxLength_eq_none_iff,
    Check.failure?_patternCheck_eq_none_iff, admitsText, Bool.and_eq_true, Option.all_eq_true,
    Option.mem_def, decide_eq_true_eq]
  grind

/-- The checks and the refinement of rules object to exactly the values that the rules do not
admit. -/
theorem objections_eq_nil_iff_admits :
    objections (rules.checks kind) (rules.refinements predicates) value = [] ↔
      rules.admits predicates kind value := by
  unfold admits
  rw [objections_eq_nil_iff, forall_refinements_iff, Bool.and_eq_true]
  refine and_congr_left fun _ ↦ ?_
  cases kind with
  | number =>
    rw [forall_checks_number_iff]
    cases value <;> simp [Json.number?]
  | string =>
    rw [forall_checks_string_iff]
    cases value <;> simp [Json.text?]
  | _ => simp [checks]

end Rules

/-! ## Parts -/

namespace Verdict

/-- What comes of a value that may be missing: nothing if there are issues, else a value or none. -/
def settled (verdict : Verdict) : Option (Option Json) :=
  if verdict.issues = [] then some verdict.value? else none

/-- Where a verdict is decided, its value alone tells what comes of it. -/
theorem Decided.settled {verdict : Verdict} (h : verdict.Decided) :
    verdict.settled = verdict.value?.map some := by
  unfold Verdict.settled
  cases hvalue : verdict.value? with
  | some value =>
    rw [if_pos (h.issues_eq_nil hvalue), Option.map_some]
  | none =>
    rw [if_neg (h.issues_ne_nil hvalue), Option.map_none]

/-- A list passes if all of its items do. -/
theorem mapM_value? (place : Nat) (verdicts : List Verdict)
    (h : ∀ verdict ∈ verdicts, verdict.Decided) :
    verdicts.mapM value? =
      if itemIssues place verdicts = [] then some (verdicts.filterMap value?) else none := by
  induction verdicts generalizing place with
  | nil => rfl
  | cons verdict rest ih =>
    have hverdict : verdict.Decided := h verdict List.mem_cons_self
    have hrest := ih (place + 1) fun other hother ↦ h other (List.mem_cons_of_mem _ hother)
    rw [List.mapM_cons, hrest]
    simp only [itemIssues_cons, List.append_eq_nil_iff, issuesAt_eq_nil_iff]
    cases hvalue : verdict.value? with
    | some value =>
      have hissues : verdict.issues = [] := hverdict.issues_eq_nil hvalue
      by_cases hnil : itemIssues (place + 1) rest = [] <;> simp [hissues, hnil, hvalue]
    | none =>
      have hissues : verdict.issues ≠ [] := hverdict.issues_ne_nil hvalue
      simp [hissues]

end Verdict

namespace Validator

/-- How a validator reads a member. -/
def reading (v : Validator) : MemberReading := fun value? ↦ (v.judge value?).settled

/-- A list passes if all its items do. The walk goes on behind an item that does not, but only for
its issues. -/
theorem value?_judgeKind_array (item : Validator) (items : List Json) :
    (judgeKind (.array item) (.array items)).value? =
      (items.mapM fun value ↦ (item.judge (some value)).value?).map .array := by
  have hdecided : ∀ verdict ∈ items.map fun value ↦ item.judge (some value), verdict.Decided := by
    intro verdict hverdict
    obtain ⟨value, -, rfl⟩ := List.mem_map.mp hverdict
    exact decided_judge item value
  have hmapM : (items.mapM fun value ↦ (item.judge (some value)).value?) =
      (items.map fun value ↦ item.judge (some value)).mapM Verdict.value? :=
    List.mapM_map.symm
  rw [hmapM, Verdict.mapM_value? 0 _ hdecided, judgeKind, Verdict.value?_ofParts]
  split
  · rfl
  · rfl

/-- Reading the declared members fails exactly if one of the fields has an issue. -/
theorem readDeclared_reading (fields : List (String × Validator)) (members : List (String × Json)) :
    readDeclared members (fields.map (Prod.map id reading)) =
      if Verdict.fieldIssues (judgeFields fields members) = [] then
        some (Verdict.fieldMembers (judgeFields fields members)) else none := by
  induction fields with
  | nil => rfl
  | cons pair rest ih =>
    obtain ⟨name, field⟩ := pair
    rw [List.map_cons, Prod.map_apply, readDeclared, ih, judgeFields, reading, Verdict.settled]
    simp only [Verdict.fieldIssues_cons, Verdict.fieldMembers_cons, List.append_eq_nil_iff,
      Verdict.issuesAt_eq_nil_iff, id_eq]
    by_cases hfield : (field.judge (lookup name members)).issues = []
    · by_cases hrest : Verdict.fieldIssues (judgeFields rest members) = [] <;>
        simp [hfield, hrest]
    · simp [hfield]

/-- What comes of an object is what reading its members gives, each by the validator of its field.
-/
theorem value?_judgeKind_object (fields : List (String × Validator)) (policy : UnknownKeys)
    (members : List (String × Json)) :
    (judgeKind (.object fields policy) (.object members)).value? =
      readMembers policy (fields.map (Prod.map id reading)) members := by
  have hkeys : fields.map Prod.fst = keys (fields.map (Prod.map id reading)) := (keys_map _ _).symm
  rw [judgeKind, Verdict.value?_ofParts, readMembers, readDeclared_reading, hkeys]
  simp only [List.append_eq_nil_iff]
  generalize Verdict.fieldIssues (judgeFields fields members) = issues
  generalize undeclared _ members = others
  cases issues with
  | nil => cases policy <;> simp [UnknownKeys.issues, UnknownKeys.kept]
  | cons issue rest => simp

@[simp]
theorem value?_judge_any (value : Json) : (any.judge (some value)).value? = some value := by
  simp [any, judge_some, judgeKind, Verdict.value?_conclude, objections]

/-- A value passes if it is of the right kind and there are no objections to what comes of it. -/
theorem value?_judge_some_eq_some_iff {v : Validator} {value out : Json} :
    (v.judge (some value)).value? = some out ↔
      (judgeKind v.kind value).value? = some out ∧ objections v.checks v.refinements out = [] := by
  rw [judge_some, Verdict.value?_conclude, Option.filter_eq_some_iff, decide_eq_true_eq]

/-- What comes of a union comes of the first alternative that gives anything. -/
theorem value?_judgeKind_union (first second : Validator) (value : Json) :
    (judgeKind (.union first second) value).value? =
      (first.judge (some value)).value?.or (second.judge (some value)).value? := by
  rw [judgeKind]
  cases (first.judge (some value)).value?.or (second.judge (some value)).value? <;> rfl

theorem judge_none (v : Validator) :
    v.judge none =
      match v.default with
      | some default => v.judge (some default)
      | none => if v.optional then ⟨none, []⟩ else .refuse .missing := by
  obtain ⟨kind, optional, checks, refinements, default, description⟩ := v
  cases default with
  | some default => simp only [judge, Option.none_or, Option.some_or]
  | none => simp only [judge, Option.none_or]

theorem reading_some (v : Validator) (value : Json) :
    v.reading (some value) = (v.judge (some value)).value?.map some :=
  (decided_judge v value).settled

theorem reading_none (v : Validator) :
    v.reading none =
      match v.default with
      | some default => v.reading (some default)
      | none => if v.optional then some none else none := by
  unfold reading
  rw [judge_none]
  cases v.default with
  | some default => rfl
  | none => cases v.optional <;> rfl

variable (predicates : Predicates) (kind : FieldKind) (rules? : Option Rules)
  (description : Option String) (base : ValidatorKind Validator)

theorem optional_withRules :
    (base.withRules predicates kind rules? description).optional =
      !(rules?.getD {}).isRequired := rfl

/-- The default is kept if it passes. -/
theorem default_withRules :
    (base.withRules predicates kind rules? description).default =
      (rules?.getD {}).default.filter fun value ↦
        ((base.withRules predicates kind rules? description).judge (some value)).value?.isSome := by
  unfold ValidatorKind.withRules
  apply congrArg (Option.filter · _)
  funext value
  rw [Bool.eq_iff_iff, accepts_iff, judge_some, judge_some]

/-- A validator that rules were laid over reads a member as the rules say. -/
theorem reading_withRules :
    (base.withRules predicates kind rules? description).reading =
      (rules?.getD {}).readMember fun value ↦
        ((base.withRules predicates kind rules? description).judge (some value)).value? := by
  funext value?
  cases value? with
  | some value => exact reading_some _ value
  | none =>
    rw [reading_none, default_withRules, optional_withRules, Rules.readMember]
    cases (rules?.getD {}).default with
    | none => cases (rules?.getD {}).isRequired <;> rfl
    | some default =>
      rw [Option.filter_some, Option.bind_some]
      cases hread :
          ((base.withRules predicates kind rules? description).judge (some default)).value? with
      | some out => simp [reading_some, hread]
      | none => cases (rules?.getD {}).isRequired <;> rfl

end Validator

namespace Field

/-- The members that validators read are those that their fields read. -/
theorem reading_validators (s : Setting) (fields : List Field)
    (h : ∀ field ∈ fields, ∀ value,
      ((field.validator s).judge (some value)).value? = field.read s value) :
    (collect (validators s fields)).map (Prod.map id Validator.reading) =
      lastUnderEach (memberReadings s fields) := by
  have hreading : named (fun field ↦ (field.validator s).reading) fields =
      named (fun field ↦ (field.rules.getD {}).readMember (field.read s)) fields := by
    apply List.map_congr_left
    intro field hfield
    have hread : (fun value ↦ ((field.validator s).judge (some value)).value?) = field.read s := by
      funext value
      exact h field hfield value
    have hmember : (field.validator s).reading =
        (field.rules.getD {}).readMember (field.read s) := by
      rw [validator_eq] at hread ⊢
      rw [Validator.reading_withRules, hread]
    exact congrArg (Prod.mk field.name) hmember
  calc (collect (validators s fields)).map (Prod.map id Validator.reading)
      = collect ((validators s fields).map (Prod.map id Validator.reading)) :=
        (collect_map _ _).symm
    _ = collect (named (fun field ↦ (field.validator s).reading) fields) := by
        rw [validators_eq_named, named_map]
    _ = collect (memberReadings s fields) := by rw [hreading, memberReadings_eq_named]
    _ = lastUnderEach (memberReadings s fields) := collect_eq_lastUnderEach _

/-- The step of the induction on fields: the validator of a kind gives what the kind reads, if this
holds of the children. -/
theorem value?_judgeKind_validatorKind (s : Setting) (members : Option (List String))
    (kind : FieldKind) (children : Option (List Field))
    (ih : ∀ child ∈ children.getD [], ∀ value,
      ((child.validator s).judge (some value)).value? = child.read s value) (value : Json) :
    (Validator.judgeKind (validatorKind s members kind children) value).value? =
      readKind s members kind children value := by
  cases kind with
  | string => cases value <;> simp [validatorKind, Validator.judgeKind, readKind, Json.text?]
  | number =>
    rw [validatorKind, Validator.judgeKind, readKind]
    cases value.coerceNumber? s.coerce <;> rfl
  | boolean => cases value <;> simp [validatorKind, Validator.judgeKind, readKind]
  | date =>
    rw [validatorKind, Validator.judgeKind, readKind]
    cases value.moment? s.coerce <;> rfl
  | file | calculated | unsupported =>
    rw [validatorKind, Validator.judgeKind, readKind, Verdict.value?_pass]
  | enumeration =>
    rw [validatorKind]
    rcases members with _ | (_ | ⟨first, rest⟩)
    case none | some.nil =>
      show (Validator.judgeKind .string value).value? = _
      cases value <;> simp [Validator.judgeKind, readKind]
    case some.cons =>
      show (Validator.judgeKind (.enumeration (first :: rest)) value).value? = _
      cases value with
      | string text =>
        by_cases hmem : text ∈ first :: rest <;> simp [Validator.judgeKind, readKind, hmem]
      | _ => simp [Validator.judgeKind, readKind]
  | array =>
    rcases children with _ | (_ | ⟨item, rest⟩)
    case none | some.nil =>
      cases value with
      | array items =>
        rw [validatorKind.eq_def, Validator.value?_judgeKind_array, readKind.eq_def]
        have hitems : items.mapM (fun value ↦ (Validator.any.judge (some value)).value?) =
            some items := by
          simp only [Validator.value?_judge_any]
          simpa using List.mapM_pure (m := Option) (l := items) (f := id)
        exact congrArg (Option.map Json.array) hitems
      | _ => simp [validatorKind, Validator.judgeKind, readKind]
    case some.cons =>
      cases value with
      | array items =>
        rw [validatorKind, Validator.value?_judgeKind_array, readKind]
        have hitem := ih item List.mem_cons_self
        simp only [hitem]
      | _ => simp [validatorKind, Validator.judgeKind, readKind]
  | object =>
    cases children with
    | none =>
      cases value with
      | object given =>
        rw [validatorKind, Validator.value?_judgeKind_object, readKind]
        simp [readMembers, readDeclared, undeclared]
      | _ => simp [validatorKind, Validator.judgeKind, readKind]
    | some fields =>
      cases value with
      | object given =>
        rw [validatorKind, Validator.value?_judgeKind_object, readKind,
          reading_validators s fields ih]
      | _ => simp [validatorKind, Validator.judgeKind, readKind]
  | union =>
    rcases children with _ | (_ | ⟨first, _ | ⟨second, rest⟩⟩)
    case none | some.nil | some.cons.nil => simp [validatorKind, Validator.judgeKind, readKind]
    case some.cons.cons =>
      have hfirst := ih first List.mem_cons_self
      have hsecond := ih second (List.mem_cons_of_mem _ List.mem_cons_self)
      rw [validatorKind, Validator.value?_judgeKind_union, readKind, hfirst, hsecond]

/-- The validator of a field passes exactly what the field reads. -/
theorem value?_judge_validator (s : Setting) (field : Field) : ∀ value,
    ((field.validator s).judge (some value)).value? = field.read s value := by
  induction field using childrenInduction with
  | step field ih =>
    obtain ⟨name, kind, description, rules, members, children, calculation⟩ := field
    intro value
    have hkind := value?_judgeKind_validatorKind s members kind children ih value
    rw [validator, Validator.judge_some, Verdict.value?_conclude]
    calc ((Validator.judgeKind (validatorKind s members kind children) value).value?.filter
          fun out ↦ objections ((rules.getD {}).checks kind)
            ((rules.getD {}).refinements s.predicates) out = [])
        = (readKind s members kind children value).filter
            fun out ↦ (rules.getD {}).admits s.predicates kind out := by
          simp only [hkind, Rules.objections_eq_nil_iff_admits, Bool.decide_eq_true]
      _ = read s ⟨name, kind, description, rules, members, children, calculation⟩ value := by
          rw [read]

end Field

namespace Compiler

/-- What a field is compiled into validates exactly the values that the field reads, and gives what
it reads. -/
theorem validate_eq_ok_iff_read {compiler : Compiler} {field : Field} {v : Validator}
    (h : (compiler.compile field).outcome = .ok v) (value out : Json) :
    v.validate value = .ok out ↔
      field.read (compiler.setting (compiler.options.coercion.resolve .field)) value =
        some out := by
  have hv := eq_of_yields_compileShaped h
  rw [hv, Validator.validate_eq_ok_iff, Field.value?_judge_validator]

/-- An order: the amount is declared twice, as a text and then as a number, and the tags, each a
truth value or a text, are by default one text. -/
def order : Field :=
  let tag : Field :=
    { kind := .union
      children := some [{ kind := .boolean },
        { kind := .string, rules := some { minLength := some 2 } }] }
  { kind := .object
    children := some [
      { name := "amount", kind := .string },
      { name := "tags", kind := .array, children := some [tag],
        rules := some { default := some (.array [.string "new"]) } },
      { name := "amount", kind := .number, rules := some { custom := some "positive" } }] }

/-- An order is read with a coerced amount, default tags, and a note that is not declared. -/
theorem validate_order :
    ∃ v, (Compiler.compile {} order).outcome = .ok v ∧
      v.validate (.object [("note", .null), ("amount", .string " 3 ")]) = .ok
        (.object [("amount", .ofInt 3), ("tags", .array [.string "new"]), ("note", .null)]) := by
  have h : (Compiler.compile {} order).outcome =
      .ok (order.validator (Compiler.setting {} true)) := rfl
  exact ⟨_, h, (validate_eq_ok_iff_read h _ _).mpr (by cbv)⟩

end Compiler

end ToolSchema
