import ToolSchema.Proofs.Verdict

/-!
# Locality of walks

A walk leads back to the path where it started. It adds issues behind those already found, with the
path in front of their paths, and depends on neither: from every start it gives the verdict on the
value. Hence a value is valid if its verdict has no issues, and then the final form comes out.
-/

namespace ToolSchema

namespace Walk

/-- The walk with issues added that were found below the value at hand. -/
def absorb (walk : Walk) (found : List Issue) : Walk :=
  { walk with issues := walk.issues ++ found.map (Issue.under walk.path) }

@[simp]
theorem absorb_nil (walk : Walk) : walk.absorb [] = walk := by simp [absorb]

@[simp]
theorem absorb_absorb (walk : Walk) (found more : List Issue) :
    (walk.absorb found).absorb more = walk.absorb (found ++ more) := by
  simp [absorb]

theorem report_eq_absorb (walk : Walk) (reason : Reason) :
    walk.report reason = walk.absorb [⟨.root, reason⟩] := by
  simp [report, absorb, Issue.under, FieldPath.root]

/-- What is found one step further in is found under that step. -/
theorem leave_absorb_enter (walk : Walk) (segment : Segment) (found : List Issue) :
    ((walk.enter segment).absorb found).leave =
      walk.absorb (found.map (Issue.under ⟨[segment]⟩)) := by
  simp [enter, absorb, leave, FieldPath.push, FieldPath.pop, Issue.under]

theorem quietSince_absorb (walk : Walk) (found : List Issue) :
    (walk.absorb found).quietSince walk = decide (found = []) := by
  cases found <;> simp [quietSince, absorb]

theorem absorb_start (found : List Issue) : start.absorb found = ⟨.root, found⟩ := by
  simp [start, absorb, Issue.map_under_root]

end Walk

/-- A part of a walk gives a verdict if it does so from every start. -/
def Gives (part : Walk → Option Json × Walk) (verdict : Verdict) : Prop :=
  ∀ walk, part walk = (verdict.value?, walk.absorb verdict.issues)

namespace Validator

/-- All checks are made, also behind one that fails. -/
theorem foldl_checks (checks : List Check) (value : Json) (walk : Walk) :
    checks.foldl (Check.apply value) walk =
      walk.absorb ((checks.filterMap (Check.failure? value)).map fun reason ↦ ⟨.root, reason⟩) := by
  induction checks generalizing walk with
  | nil => simp
  | cons check rest ih =>
    rw [List.foldl_cons, ih, Check.apply]
    cases h : check.failure? value with
    | none => simp [h]
    | some reason => simp [h, Walk.report_eq_absorb]

/-- All refinements are made, also behind one that fails. -/
theorem foldl_refinements (refinements : List Refinement) (value : Json) (walk : Walk) :
    refinements.foldl (Refinement.apply value) walk =
      walk.absorb (((refinements.filter fun r ↦ !r.predicate value).map fun r ↦
        .refinement r.name).map fun reason ↦ ⟨.root, reason⟩) := by
  induction refinements generalizing walk with
  | nil => simp
  | cons refinement rest ih =>
    rw [List.foldl_cons, ih, Refinement.apply]
    by_cases h : refinement.predicate value
    · simp [h]
    · simp [h, Walk.report_eq_absorb]

/-- Checks and refinements on a value without issues. -/
theorem conclude_eq (checks : List Check) (refinements : List Refinement) (value : Json)
    (walk : Walk) :
    conclude checks refinements value walk walk =
      (((Verdict.pass value).conclude checks refinements).value?,
        walk.absorb ((Verdict.pass value).conclude checks refinements).issues) := by
  simp only [conclude, foldl_checks, Walk.quietSince_absorb, Verdict.conclude, Verdict.value?_pass,
    objections, Verdict.value?_ofParts, Verdict.issues_ofParts]
  cases checks.filterMap (Check.failure? value) with
  | cons reason rest => simp [Walk.quietSince_absorb]
  | nil => simp [foldl_refinements, Walk.quietSince_absorb]

/-- All items are walked, and each of them as if it were alone. -/
theorem runItems_eq {item : Json → Walk → Option Json × Walk} {verdict : Json → Verdict}
    (hitem : ∀ value, Gives (item value) (verdict value))
    (hdecided : ∀ value, (verdict value).Decided) (place : Nat) (values : List Json)
    (walk : Walk) :
    runItems item place values walk =
      (if Verdict.itemIssues place (values.map verdict) = [] then
          some ((values.map verdict).filterMap Verdict.value?) else none,
        walk.absorb (Verdict.itemIssues place (values.map verdict))) := by
  induction values generalizing place walk with
  | nil => simp [runItems, Verdict.itemIssues]
  | cons value rest ih =>
    rw [runItems, hitem value (walk.enter (.index place))]
    dsimp only
    rw [Walk.leave_absorb_enter, ih, List.map_cons, Verdict.itemIssues_cons, Walk.absorb_absorb]
    refine Prod.ext ?_ rfl
    cases hvalue : (verdict value).value? with
    | none =>
      have hissues : (verdict value).issues ≠ [] := (hdecided value).issues_ne_nil hvalue
      simp [Verdict.issuesAt, hissues]
    | some out =>
      have hissues : (verdict value).issues = [] := (hdecided value).issues_eq_nil hvalue
      by_cases hrest : Verdict.itemIssues (place + 1) (rest.map verdict) = []
      · simp [Verdict.issuesAt, hissues, hrest, hvalue]
      · simp [Verdict.issuesAt, hissues, hrest]

theorem undeclared_cons (declared : List String) (key : String) (value : Json)
    (rest : List (String × Json)) :
    undeclared declared ((key, value) :: rest) =
      if key ∈ declared then undeclared declared rest
      else (key, value) :: undeclared declared rest := by
  by_cases h : key ∈ declared <;> simp [undeclared, h]

theorem runUnknown_eq (policy : UnknownKeys) (declared : List String)
    (members : List (String × Json)) (walk : Walk) :
    runUnknown policy declared members walk =
      (policy.kept (undeclared declared members),
        walk.absorb (policy.issues (undeclared declared members))) := by
  induction members generalizing walk with
  | nil => cases policy <;> simp [runUnknown, undeclared, UnknownKeys.kept, UnknownKeys.issues]
  | cons pair rest ih =>
    obtain ⟨key, value⟩ := pair
    rw [runUnknown.eq_def, undeclared_cons]
    by_cases h : key ∈ declared
    · simp [h, ih]
    · cases policy with
      | passthrough => simp [h, ih, UnknownKeys.kept, UnknownKeys.issues]
      | strip => simp [h, ih, UnknownKeys.kept, UnknownKeys.issues]
      | reject =>
        simp [h, ih, UnknownKeys.kept, UnknownKeys.issues, Walk.report_eq_absorb,
          Walk.leave_absorb_enter, Issue.under, FieldPath.root, FieldPath.key, FieldPath.push]

theorem mismatch_eq (expected : String) (value : Json) :
    Gives (mismatch expected value) (.mismatch expected value) := by
  intro walk
  rw [mismatch, Walk.report_eq_absorb]
  rfl

theorem gives_pass (value : Json) : Gives (fun walk ↦ (some value, walk)) (.pass value) := by
  intro walk
  simp

theorem gives_refuse (reason : Reason) :
    Gives (fun walk ↦ (none, walk.report reason)) (.refuse reason) :=
  fun walk ↦ congrArg (Prod.mk none) (walk.report_eq_absorb reason)

mutual
/-- What a walk makes of a value depends neither on where the walk is nor on what it has found. -/
theorem run_eq : (v : Validator) → (value? : Option Json) → Gives (v.run value?) (v.judge value?)
  | ⟨kind, optional, checks, refinements, default, description⟩, value? => by
    intro walk
    rw [run, judge]
    cases value?.or default with
    | none =>
      cases optional
      · exact gives_refuse .missing walk
      · simp
    | some value =>
      dsimp only
      rw [parse_eq kind value walk]
      have hdecided := decided_judgeKind kind value
      cases hvalue : (judgeKind kind value).value? with
      | none => simp [Verdict.conclude, hvalue]
      | some out =>
        have hissues := hdecided.issues_eq_nil hvalue
        have hpass : judgeKind kind value = .pass out := by
          rw [Verdict.pass, ← hvalue, ← hissues]
        rw [hpass, ← conclude_eq, Verdict.issues_pass, Walk.absorb_nil]

theorem parse_eq : (kind : ValidatorKind Validator) → (value : Json) →
    Gives (parse kind value) (judgeKind kind value)
  | .any, value => by
    intro walk
    rw [parse, judgeKind]
    exact gives_pass value walk
  | .string, value => by
    intro walk
    rw [parse.eq_def, judgeKind.eq_def]
    cases value with
    | string text => exact gives_pass _ walk
    | _ => exact mismatch_eq _ _ walk
  | .number coerce, value => by
    intro walk
    rw [parse, judgeKind]
    cases value.coerceNumber? coerce with
    | some number => exact gives_pass _ walk
    | none => exact mismatch_eq _ _ walk
  | .boolean, value => by
    intro walk
    rw [parse.eq_def, judgeKind.eq_def]
    cases value with
    | bool truth => exact gives_pass _ walk
    | _ => exact mismatch_eq _ _ walk
  | .date coerce, value => by
    intro walk
    rw [parse, judgeKind]
    cases value.moment? coerce with
    | some moment => exact gives_pass _ walk
    | none => exact mismatch_eq _ _ walk
  | .enumeration members, value => by
    intro walk
    rw [parse.eq_def, judgeKind.eq_def]
    cases value with
    | string text =>
      dsimp only
      split
      · exact gives_pass _ walk
      · exact gives_refuse _ walk
    | _ => exact mismatch_eq _ _ walk
  | .array item, value => by
    intro walk
    rw [parse.eq_def, judgeKind.eq_def]
    cases value with
    | array values =>
      dsimp only
      rw [runItems_eq (fun value ↦ run_eq item (some value)) (decided_judge item)]
      by_cases h : Verdict.itemIssues 0 (values.map fun value ↦ item.judge (some value)) = []
      · simp [h]
      · simp [h]
    | _ => exact mismatch_eq _ _ walk
  | .object fields policy, value => by
    intro walk
    rw [parse.eq_def, judgeKind.eq_def]
    cases value with
    | object members =>
      dsimp only
      rw [runFields_eq fields members walk, runUnknown_eq, Walk.absorb_absorb]
      simp only [Walk.quietSince_absorb, Verdict.value?_ofParts, Verdict.issues_ofParts,
        decide_eq_true_eq]
    | _ => exact mismatch_eq _ _ walk
  | .union first second, value => by
    intro walk
    rw [parse, judgeKind, run_eq first, run_eq second]
    cases (first.judge (some value)).value? with
    | some out => exact gives_pass out walk
    | none =>
      cases (second.judge (some value)).value? with
      | some out => exact gives_pass out walk
      | none => exact gives_refuse .noAlternative walk

/-- All fields are walked, and each of them as if it were alone. -/
theorem runFields_eq : (fields : List (String × Validator)) → (members : List (String × Json)) →
    (walk : Walk) → runFields fields members walk =
      (Verdict.fieldMembers (judgeFields fields members),
        walk.absorb (Verdict.fieldIssues (judgeFields fields members)))
  | [], members, walk => by simp [runFields, judgeFields, Verdict.fieldMembers, Verdict.fieldIssues]
  | (key, field) :: rest, members, walk => by
    rw [runFields, run_eq field]
    dsimp only
    rw [Walk.leave_absorb_enter, runFields_eq rest, judgeFields]
    simp [Verdict.fieldMembers, Verdict.fieldIssues, Verdict.issuesAt]
end

/-! ## Validating -/

/-- A value that may be missing is valid if its verdict has no issues. -/
theorem validateOptional_eq (v : Validator) (value? : Option Json) :
    v.validateOptional value? =
      if (v.judge value?).issues = [] then .ok (v.judge value?).value?
      else .error ⟨(v.judge value?).issues⟩ := by
  rw [validateOptional, run_eq, Walk.absorb_start]
  cases (v.judge value?).issues <;> rfl

/-- A value is valid if it passes. -/
theorem validate_eq (v : Validator) (value : Json) :
    v.validate value =
      match (v.judge (some value)).value? with
      | some out => .ok out
      | none => .error ⟨(v.judge (some value)).issues⟩ := by
  have hdecided := decided_judge v value
  rw [validate, validateOptional_eq]
  cases hvalue : (v.judge (some value)).value? with
  | some out =>
    have hissues := hdecided.issues_eq_nil hvalue
    rw [if_pos hissues]
  | none =>
    have hissues : (v.judge (some value)).issues ≠ [] := hdecided.issues_ne_nil hvalue
    rw [if_neg hissues]

theorem validate_eq_ok_iff {v : Validator} {value out : Json} :
    v.validate value = .ok out ↔ (v.judge (some value)).value? = some out := by
  rw [validate_eq]
  cases (v.judge (some value)).value? <;> simp

theorem accepts_iff {v : Validator} {value : Json} :
    v.accepts value ↔ (v.judge (some value)).value?.isSome := by
  rw [accepts, validate_eq]
  cases (v.judge (some value)).value? <;> simp [Except.isOk, Except.toBool]

end Validator

end ToolSchema
