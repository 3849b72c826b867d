import ToolSchema.Validator.Run

/-!
# Verdicts

A verdict is what comes of a value, seen from the value itself: its final form, if it passed, and
the issues below it. The verdict on an object is put together from the verdicts on its fields, and
the verdict on a list from those on its items. Walking a value along a validator gives its verdict,
from whatever path and with whatever issues the walk starts.
-/

namespace ToolSchema

/-- The issue as seen from further up: its path follows the path to the value. -/
def Issue.under (path : FieldPath) (issue : Issue) : Issue :=
  ⟨⟨path.segments ++ issue.path.segments⟩, issue.reason⟩

@[simp]
theorem Issue.under_root (issue : Issue) : issue.under .root = issue := by
  simp [Issue.under, FieldPath.root]

theorem Issue.map_under_root (issues : List Issue) : issues.map (Issue.under .root) = issues := by
  calc issues.map (Issue.under .root)
      = issues.map id := List.map_congr_left fun issue _ ↦ Issue.under_root issue
    _ = issues := List.map_id issues

/-- What comes of a value: its final form, if there is one, and the issues at it and below it. -/
structure Verdict where
  value? : Option Json
  issues : List Issue

namespace Verdict

def pass (value : Json) : Verdict := ⟨some value, []⟩

def refuse (reason : Reason) : Verdict := ⟨none, [⟨.root, reason⟩]⟩

def mismatch (expected : String) (value : Json) : Verdict :=
  refuse (.mismatch expected value.type)

/-- The value passes if its parts have no issues. -/
def ofParts (issues : List Issue) (value : Json) : Verdict :=
  if issues = [] then pass value else ⟨none, issues⟩

/-- The issues of a part, seen from the whole. -/
def issuesAt (segment : Segment) (verdict : Verdict) : List Issue :=
  verdict.issues.map (Issue.under ⟨[segment]⟩)

/-- The issues of the items of a list, the first of which stands at a place. -/
def itemIssues (place : Nat) (verdicts : List Verdict) : List Issue :=
  (verdicts.zipIdx place).flatMap fun (verdict, place) ↦ verdict.issuesAt (.index place)

def fieldIssues (verdicts : List (String × Verdict)) : List Issue :=
  verdicts.flatMap fun (key, verdict) ↦ verdict.issuesAt (.key key)

/-- The members that come of the fields of an object. -/
def fieldMembers (verdicts : List (String × Verdict)) : List (String × Json) :=
  verdicts.flatMap fun (key, verdict) ↦ verdict.value?.toList.map fun value ↦ (key, value)

end Verdict

/-- Why a value of the right kind is refused: the checks it fails, or else the refinements. -/
def objections (checks : List Check) (refinements : List Refinement) (value : Json) :
    List Reason :=
  match checks.filterMap (Check.failure? value) with
  | [] => (refinements.filter fun r ↦ !r.predicate value).map fun r ↦ .refinement r.name
  | reasons => reasons

def Verdict.conclude (checks : List Check) (refinements : List Refinement) (verdict : Verdict) :
    Verdict :=
  match verdict.value? with
  | none => verdict
  | some value =>
    .ofParts ((objections checks refinements value).map fun reason ↦ ⟨.root, reason⟩) value

namespace UnknownKeys

def issues (policy : UnknownKeys) (undeclared : List (String × Json)) : List Issue :=
  match policy with
  | .reject => undeclared.map fun (key, _) ↦ ⟨.key .root key, .unrecognizedKey⟩
  | _ => []

def kept (policy : UnknownKeys) (undeclared : List (String × Json)) : List (String × Json) :=
  match policy with
  | .passthrough => undeclared
  | _ => []

end UnknownKeys

/-- The members of an object whose keys are not declared. -/
def undeclared (declared : List String) (members : List (String × Json)) : List (String × Json) :=
  members.filter fun (key, _) ↦ !declared.contains key

namespace Validator

mutual
/-- The verdict on a value that may be missing. -/
def judge : Validator → Option Json → Verdict
  | ⟨kind, optional, checks, refinements, default, _⟩, value? =>
    match value?.or default with
    | none => if optional then ⟨none, []⟩ else .refuse .missing
    | some value => (judgeKind kind value).conclude checks refinements

/-- The verdict on a value before checks and refinements. -/
def judgeKind : ValidatorKind Validator → Json → Verdict
  | .any, value => .pass value
  | .string, value =>
    match value with
    | .string _ => .pass value
    | _ => .mismatch "string" value
  | .number coerce, value =>
    match value.coerceNumber? coerce with
    | some number => .pass number
    | none => .mismatch "number" value
  | .boolean, value =>
    match value with
    | .bool _ => .pass value
    | _ => .mismatch "boolean" value
  | .date coerce, value =>
    match value.moment? coerce with
    | some moment => .pass (.string moment.render)
    | none => .mismatch "date" value
  | .enumeration members, value =>
    match value with
    | .string text =>
      if members.contains text then .pass value else .refuse (.notMember members text)
    | _ => .mismatch "string" value
  | .array item, value =>
    match value with
    | .array values =>
      let verdicts := values.map fun value ↦ judge item (some value)
      .ofParts (Verdict.itemIssues 0 verdicts) (.array (verdicts.filterMap Verdict.value?))
    | _ => .mismatch "array" value
  | .object fields policy, value =>
    match value with
    | .object members =>
      let verdicts := judgeFields fields members
      let others := undeclared (fields.map Prod.fst) members
      .ofParts (Verdict.fieldIssues verdicts ++ policy.issues others)
        (.object (Verdict.fieldMembers verdicts ++ policy.kept others))
    | _ => .mismatch "object" value
  | .union first second, value =>
    match (judge first (some value)).value?.or (judge second (some value)).value? with
    | some out => .pass out
    | none => .refuse .noAlternative

def judgeFields : List (String × Validator) → List (String × Json) → List (String × Verdict)
  | [], _ => []
  | (key, field) :: rest, members =>
    (key, judge field (lookup key members)) :: judgeFields rest members
end

/-- Fields are judged independently of each other. -/
theorem judgeFields_eq_map (fields : List (String × Validator)) (members : List (String × Json)) :
    judgeFields fields members =
      fields.map fun (key, field) ↦ (key, field.judge (lookup key members)) := by
  induction fields with
  | nil => rfl
  | cons pair rest ih =>
    rw [judgeFields, ih]
    rfl

theorem judge_some (v : Validator) (value : Json) :
    v.judge (some value) = (judgeKind v.kind value).conclude v.checks v.refinements := by
  obtain ⟨kind, optional, checks, refinements, default, description⟩ := v
  rw [judge, Option.some_or]

end Validator

namespace Verdict

theorem issuesAt_eq_nil_iff {segment : Segment} {verdict : Verdict} :
    verdict.issuesAt segment = [] ↔ verdict.issues = [] := by
  simp [issuesAt]

theorem itemIssues_cons (place : Nat) (verdict : Verdict) (rest : List Verdict) :
    itemIssues place (verdict :: rest) =
      verdict.issuesAt (.index place) ++ itemIssues (place + 1) rest := by
  simp [itemIssues]

theorem fieldIssues_cons (key : String) (verdict : Verdict) (rest : List (String × Verdict)) :
    fieldIssues ((key, verdict) :: rest) = verdict.issuesAt (.key key) ++ fieldIssues rest := by
  simp [fieldIssues]

theorem fieldMembers_cons (key : String) (verdict : Verdict) (rest : List (String × Verdict)) :
    fieldMembers ((key, verdict) :: rest) =
      verdict.value?.toList.map (fun value ↦ (key, value)) ++ fieldMembers rest := by
  simp [fieldMembers]

end Verdict

/-! ## A present value passes or has issues -/

namespace Verdict

/-- A verdict is decided if either the value passes or there are issues. -/
def Decided (verdict : Verdict) : Prop := verdict.value?.isSome ↔ verdict.issues = []

@[simp]
theorem value?_pass (value : Json) : (pass value).value? = some value := rfl

@[simp]
theorem issues_pass (value : Json) : (pass value).issues = [] := rfl

@[simp]
theorem value?_refuse (reason : Reason) : (refuse reason).value? = none := rfl

@[simp]
theorem value?_mismatch (expected : String) (value : Json) :
    (mismatch expected value).value? = none := rfl

@[simp]
theorem value?_ofParts (issues : List Issue) (value : Json) :
    (ofParts issues value).value? = if issues = [] then some value else none := by
  unfold ofParts
  split <;> rfl

@[simp]
theorem issues_ofParts (issues : List Issue) (value : Json) :
    (ofParts issues value).issues = issues := by
  unfold ofParts
  split
  · next h => exact h.symm
  · rfl

@[simp]
theorem decided_pass (value : Json) : (pass value).Decided := by simp [Decided, pass]

@[simp]
theorem decided_refuse (reason : Reason) : (refuse reason).Decided := by simp [Decided, refuse]

@[simp]
theorem decided_mismatch (expected : String) (value : Json) : (mismatch expected value).Decided :=
  decided_refuse _

@[simp]
theorem decided_ofParts (issues : List Issue) (value : Json) : (ofParts issues value).Decided := by
  unfold ofParts
  split
  · exact decided_pass value
  · next h => simpa [Decided] using h

theorem Decided.issues_eq_nil {verdict : Verdict} {value : Json} (h : verdict.Decided)
    (hvalue : verdict.value? = some value) : verdict.issues = [] :=
  h.mp (Option.isSome_of_eq_some hvalue)

theorem Decided.issues_ne_nil {verdict : Verdict} (h : verdict.Decided)
    (hvalue : verdict.value? = none) : verdict.issues ≠ [] := by
  intro hnil
  have hsome := h.mpr hnil
  rw [hvalue] at hsome
  cases hsome

/-- Checks and refinements take a value away only with an issue. -/
theorem Decided.conclude {verdict : Verdict} (h : verdict.Decided) (checks : List Check)
    (refinements : List Refinement) : (verdict.conclude checks refinements).Decided := by
  unfold Verdict.conclude
  split
  · exact h
  · exact decided_ofParts _ _

end Verdict

namespace Validator

theorem decided_judgeKind (kind : ValidatorKind Validator) (value : Json) :
    (judgeKind kind value).Decided := by
  fun_cases judgeKind kind value
  all_goals
    simp only [Verdict.decided_pass, Verdict.decided_refuse, Verdict.decided_mismatch,
      Verdict.decided_ofParts]

/-- The verdict on a value that is there is decided. That on a missing one need not be. -/
theorem decided_judge (v : Validator) (value : Json) : (v.judge (some value)).Decided := by
  rw [judge_some]
  exact (decided_judgeKind v.kind value).conclude v.checks v.refinements

end Validator

end ToolSchema
