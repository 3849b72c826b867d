import ToolSchema.Proofs.Locality
import ToolSchema.Proofs.Table

/-!
# Reports

What a walk finds in a value depends on the validator and the value alone. The report on an object
is put together from the reports on its fields, in the order of their declarations, and the report
on a list from those on its items; what is found in one part neither hides nor moves what is found
in another. The checks of a value add to the report only if nothing was found in the parts, and its
refinements only if no check failed.
-/

namespace ToolSchema

namespace Issue

/-- Whether an issue lies at a path or below it. -/
def isBelow (path : FieldPath) (issue : Issue) : Bool :=
  path.segments.isPrefixOf issue.path.segments

theorem under_under (outer inner : FieldPath) (issue : Issue) :
    (issue.under inner).under outer = issue.under ⟨outer.segments ++ inner.segments⟩ := by
  simp [under]

theorem isBelow_under_step (segment step : Segment) (steps : List Segment) (issue : Issue) :
    (issue.under ⟨[step]⟩).isBelow ⟨segment :: steps⟩ =
      (segment == step && issue.isBelow ⟨steps⟩) := rfl

theorem isBelow_nil (issue : Issue) : issue.isBelow ⟨[]⟩ = true := rfl

end Issue

namespace Validator

/-- The issues that a walk finds in a value that may be missing. -/
def found (v : Validator) (value? : Option Json) : List Issue := (v.run value? .start).2.issues

/-- The issues that a walk finds in a value before the checks are made. -/
def foundAlong (kind : ValidatorKind Validator) (value : Json) : List Issue :=
  (parse kind value .start).2.issues

/-- The issues in the fields of an object, in the order of their declarations. -/
def foundInFields (fields : List (String × Validator)) (members : List (String × Json)) :
    List Issue :=
  fields.flatMap fun (key, field) ↦
    (field.found (lookup key members)).map (Issue.under ⟨[.key key]⟩)

/-- The issues in the items of a list, in order. -/
def foundInItems (item : Validator) (values : List Json) : List Issue :=
  values.zipIdx.flatMap fun (value, place) ↦
    (item.found (some value)).map (Issue.under ⟨[.index place]⟩)

variable {v : Validator} {value : Json} {value? : Option Json}

theorem found_eq (v : Validator) (value? : Option Json) :
    v.found value? = (v.judge value?).issues := by
  rw [found, run_eq, Walk.absorb_start]

theorem foundAlong_eq (kind : ValidatorKind Validator) (value : Json) :
    foundAlong kind value = (judgeKind kind value).issues := by
  rw [foundAlong, parse_eq, Walk.absorb_start]

/-! ## Walks from anywhere -/

/-- A value comes out, or there are issues, or a value was missing where none is needed. -/
theorem found_eq_nil_iff : v.found value? = [] ↔
    (v.judge value?).value?.isSome ∨ value? = none ∧ v.optional ∧ v.default = none := by
  obtain ⟨kind, optional, checks, refinements, default, description⟩ := v
  rw [found_eq, judge]
  -- A default is judged like a value that is there, so only where both are missing is nothing due.
  cases hvalue : value?.or default with
  | some value =>
    have hdecided := (decided_judgeKind kind value).conclude checks refinements
    have hgiven : ¬ (value? = none ∧ optional ∧ default = none) := by
      rintro ⟨rfl, -, rfl⟩
      cases hvalue
    rw [or_iff_left hgiven]
    exact hdecided.symm
  | none =>
    obtain ⟨rfl, rfl⟩ := Option.or_eq_none_iff.mp hvalue
    cases optional <;> simp [Verdict.refuse]

/-- A rejection says why. -/
theorem validateOptional_ne_error_nil (v : Validator) (value? : Option Json) :
    v.validateOptional value? ≠ .error ⟨[]⟩ := by
  rw [validateOptional_eq]
  by_cases hissues : (v.judge value?).issues = []
  · simp [hissues]
  · rw [if_neg hissues]
    intro heq
    apply hissues
    exact congrArg Rejection.issues (Except.error.inj heq)

/-- A value that is there either comes out or is rejected. -/
theorem validateOptional_some_ne_ok_none (v : Validator) (value : Json) :
    v.validateOptional (some value) ≠ .ok none := by
  rw [validateOptional_eq]
  by_cases hissues : (v.judge (some value)).issues = []
  · obtain ⟨out, hout⟩ := Option.isSome_iff_exists.mp ((decided_judge v value).mpr hissues)
    simp [hissues, hout]
  · simp [hissues]

/-- There is no rejection without issues. -/
theorem validate_ne_error_nil (v : Validator) (value : Json) : v.validate value ≠ .error ⟨[]⟩ := by
  rw [validate_eq]
  cases hvalue : (v.judge (some value)).value? with
  | some out => simp
  | none =>
    intro heq
    apply (decided_judge v value).issues_ne_nil hvalue
    exact congrArg Rejection.issues (Except.error.inj heq)

/-- A walk that starts anywhere leads back to its path, and adds to the issues what a walk from the
start finds, with the path in front. What comes out depends on neither. Where nothing is found a
value comes out, unless none was needed. So a rejection has issues, and validating a value that is
there never comes out empty. -/
theorem run_from_anywhere (v : Validator) (value? : Option Json) (walk : Walk) :
    (v.run value? walk).2.path = walk.path ∧
    (v.run value? walk).2.issues = walk.issues ++ (v.found value?).map (Issue.under walk.path) ∧
    (v.run value? walk).1 = (v.run value? .start).1 ∧
    (v.found value? = [] ↔
      (v.run value? walk).1.isSome ∨ value? = none ∧ v.optional ∧ v.default = none) ∧
    v.validateOptional value? ≠ .error ⟨[]⟩ ∧
    ∀ value, v.validateOptional (some value) ≠ .ok none ∧ v.validate value ≠ .error ⟨[]⟩ := by
  have hrun : v.run value? walk = ((v.judge value?).value?, walk.absorb (v.found value?)) := by
    rw [run_eq, found_eq]
  have hstart : (v.run value? .start).1 = (v.judge value?).value? := by
    rw [run_eq]
  rw [hrun, hstart]
  refine ⟨rfl, rfl, rfl, found_eq_nil_iff, v.validateOptional_ne_error_nil value?, fun value ↦ ?_⟩
  exact ⟨v.validateOptional_some_ne_ok_none value, v.validate_ne_error_nil value⟩

/-! ## Checks and refinements come last -/

/-- Behind an issue no checks are made. -/
theorem found_of_foundAlong_ne_nil (h : foundAlong v.kind value ≠ []) :
    v.found (some value) = foundAlong v.kind value := by
  rw [foundAlong_eq] at h
  rw [found_eq, foundAlong_eq, judge_some, Verdict.conclude]
  cases hvalue : (judgeKind v.kind value).value? with
  | none => rfl
  | some parsed => exact absurd ((decided_judgeKind v.kind value).issues_eq_nil hvalue) h

/-- Without issues in the parts, the checks that fail are found, or else the refinements. -/
theorem found_of_foundAlong_eq_nil (h : foundAlong v.kind value = []) :
    ∃ parsed, (parse v.kind value .start).1 = some parsed ∧
      v.found (some value) =
        (objections v.checks v.refinements parsed).map fun reason ↦ ⟨.root, reason⟩ := by
  rw [foundAlong_eq] at h
  obtain ⟨parsed, hparsed⟩ :=
    Option.isSome_iff_exists.mp ((decided_judgeKind v.kind value).mpr h)
  refine ⟨parsed, by rw [parse_eq, hparsed], ?_⟩
  rw [found_eq, judge_some, Verdict.conclude, hparsed]
  exact Verdict.issues_ofParts _ _

/-- Checks and refinements find nothing below a value. -/
theorem filter_isBelow_found (v : Validator) (value : Json) (step : Segment) :
    (v.found (some value)).filter (Issue.isBelow ⟨[step]⟩) =
      (foundAlong v.kind value).filter (Issue.isBelow ⟨[step]⟩) := by
  by_cases h : foundAlong v.kind value = []
  · obtain ⟨parsed, -, hfound⟩ := found_of_foundAlong_eq_nil h
    rw [hfound, h, List.filter_nil, List.filter_eq_nil_iff, List.forall_mem_map]
    intro reason _
    simp [Issue.isBelow, FieldPath.root]
  · rw [found_of_foundAlong_ne_nil h]

/-! ## Reports on wholes -/

/-- Issues in the fields come first, and then those of undeclared members. -/
theorem foundAlong_object (fields : List (String × Validator)) (policy : UnknownKeys)
    (members : List (String × Json)) :
    foundAlong (.object fields policy) (.object members) =
      foundInFields fields members ++ policy.issues (undeclared (keys fields) members) := by
  rw [foundAlong_eq, judgeKind, Verdict.issues_ofParts, Verdict.fieldIssues, judgeFields_eq_map,
    List.flatMap_map]
  simp only [foundInFields, found_eq]
  rfl

theorem foundAlong_array (item : Validator) (values : List Json) :
    foundAlong (.array item) (.array values) = foundInItems item values := by
  rw [foundAlong_eq, judgeKind, Verdict.issues_ofParts, Verdict.itemIssues, List.zipIdx_map,
    List.flatMap_map]
  simp only [foundInItems, found_eq]
  rfl

/-- A union that refuses a value says no more than that; why the alternatives do is lost. -/
theorem foundAlong_union (first second : Validator) (value : Json) :
    foundAlong (.union first second) value =
      if first.found (some value) = [] ∨ second.found (some value) = [] then []
      else [⟨.root, .noAlternative⟩] := by
  have hfirst : (first.judge (some value)).issues = [] ↔
      (first.judge (some value)).value?.isSome := (decided_judge first value).symm
  have hsecond : (second.judge (some value)).issues = [] ↔
      (second.judge (some value)).value?.isSome := (decided_judge second value).symm
  simp only [foundAlong_eq, judgeKind, found_eq, hfirst, hsecond]
  cases (first.judge (some value)).value? with
  | some out => simp
  | none => cases (second.judge (some value)).value? <;> simp [Verdict.refuse]

/-! ## Parts do not disturb each other -/

theorem filter_isBelow_map_under (segment step : Segment) (issues : List Issue) :
    (issues.map (Issue.under ⟨[step]⟩)).filter (Issue.isBelow ⟨[segment]⟩) =
      if segment = step then issues.map (Issue.under ⟨[step]⟩) else [] := by
  have hbelow : Issue.isBelow ⟨[segment]⟩ ∘ Issue.under ⟨[step]⟩ = fun _ ↦ segment == step := by
    funext issue
    rw [Function.comp_apply, Issue.isBelow_under_step, Issue.isBelow_nil, Bool.and_true]
  rw [List.filter_map, hbelow]
  by_cases h : segment = step <;> simp [h]

/-- Of the issues in parts that stand at different steps, those below one step are those of the part
that stands there. -/
theorem filter_isBelow_flatMap {α : Type} {parts : List α} (step : α → Segment)
    (issues : α → List Issue) (hdistinct : (parts.map step).Nodup) {part : α} (h : part ∈ parts) :
    (parts.flatMap fun part ↦ (issues part).map (Issue.under ⟨[step part]⟩)).filter
        (Issue.isBelow ⟨[step part]⟩) =
      (issues part).map (Issue.under ⟨[step part]⟩) := by
  induction parts with
  | nil => cases h
  | cons first rest ih =>
    rw [List.map_cons, List.nodup_cons] at hdistinct
    obtain ⟨hfirst, hdistinct⟩ := hdistinct
    rw [List.flatMap_cons, List.filter_append, filter_isBelow_map_under]
    rcases List.mem_cons.mp h with rfl | hrest
    · have hothers : (rest.flatMap fun other ↦
          (issues other).map (Issue.under ⟨[step other]⟩)).filter
            (Issue.isBelow ⟨[step part]⟩) = [] := by
        rw [List.filter_flatMap, List.flatMap_eq_nil_iff]
        intro other hother
        have hne : step part ≠ step other := by
          intro heq
          exact hfirst (heq ▸ List.mem_map_of_mem hother)
        rw [filter_isBelow_map_under, if_neg hne]
      rw [if_pos rfl, hothers, List.append_nil]
    · have hne : step part ≠ step first := by
        intro heq
        exact hfirst (heq ▸ List.mem_map_of_mem hrest)
      rw [if_neg hne, List.nil_append, ih hdistinct hrest]

/-- Undeclared members do not stand where declared ones do. -/
theorem filter_isBelow_undeclared (policy : UnknownKeys) {declared : List String} {key : String}
    (h : key ∈ declared) (members : List (String × Json)) :
    (policy.issues (undeclared declared members)).filter (Issue.isBelow ⟨[.key key]⟩) = [] := by
  rw [List.filter_eq_nil_iff]
  intro issue hissue
  cases policy with
  | reject =>
    obtain ⟨pair, hpair, rfl⟩ := List.mem_map.mp hissue
    have hne : key ≠ pair.1 := by
      rintro rfl
      simpa [h] using (List.mem_filter.mp hpair).2
    simpa [Issue.isBelow, FieldPath.key, FieldPath.push, FieldPath.root] using hne
  | _ => cases hissue

/-- The issues below the key of a field are those of the field. -/
theorem filter_isBelow_key {fields : List (String × Validator)} {policy : UnknownKeys}
    (hkind : v.kind = .object fields policy) (hdistinct : (keys fields).Nodup) {key : String}
    {field : Validator} (hfield : (key, field) ∈ fields) (members : List (String × Json)) :
    (v.found (some (.object members))).filter (Issue.isBelow ⟨[.key key]⟩) =
      (field.found (lookup key members)).map (Issue.under ⟨[.key key]⟩) := by
  have hkey : key ∈ keys fields := List.mem_map_of_mem hfield
  have hsteps : (fields.map fun pair ↦ Segment.key pair.1).Nodup := by
    have hmap := hdistinct.map (f := Segment.key) fun _ _ heq ↦ Segment.key.inj heq
    rwa [keys, List.map_map] at hmap
  rw [filter_isBelow_found, hkind, foundAlong_object, List.filter_append,
    filter_isBelow_undeclared policy hkey, List.append_nil]
  exact filter_isBelow_flatMap (fun pair ↦ Segment.key pair.1)
    (fun pair ↦ pair.2.found (lookup pair.1 members)) hsteps hfield

/-- The issues below the place of an item are those of the item. -/
theorem filter_isBelow_index {item : Validator} (hkind : v.kind = .array item)
    {values : List Json} {place : Nat} {member : Json} (hmember : values[place]? = some member) :
    (v.found (some (.array values))).filter (Issue.isBelow ⟨[.index place]⟩) =
      (item.found (some member)).map (Issue.under ⟨[.index place]⟩) := by
  have hmem : (member, place) ∈ values.zipIdx := List.mem_zipIdx_iff_getElem?.mpr hmember
  have hsteps : (values.zipIdx.map fun pair ↦ Segment.index pair.2).Nodup := by
    have hplaces : (values.zipIdx.map Prod.snd).Nodup := by
      rw [List.zipIdx_map_snd]
      exact List.nodup_range'
    have hmap := hplaces.map (f := Segment.index) fun _ _ heq ↦ Segment.index.inj heq
    rwa [List.map_map] at hmap
  rw [filter_isBelow_found, hkind, foundAlong_array]
  exact filter_isBelow_flatMap (fun pair ↦ Segment.index pair.2)
    (fun pair ↦ item.found (some pair.1)) hsteps hmem

/-- Along the steps of a path, from a value to the part that stands there and is validated for
itself. Alternatives of a union are not, and neither are the defaults of missing values. -/
inductive LeadsTo (part : Validator) (part? : Option Json) :
    Validator → Option Json → List Segment → Prop
  | here : LeadsTo part part? part part? []
  | key {v field : Validator} {fields : List (String × Validator)} {policy : UnknownKeys}
      {members : List (String × Json)} {key : String} {steps : List Segment}
      (hkind : v.kind = .object fields policy) (hdistinct : (keys fields).Nodup)
      (hfield : (key, field) ∈ fields)
      (rest : LeadsTo part part? field (lookup key members) steps) :
      LeadsTo part part? v (some (.object members)) (.key key :: steps)
  | index {v item : Validator} {values : List Json} {member : Json} {place : Nat}
      {steps : List Segment} (hkind : v.kind = .array item)
      (hmember : values[place]? = some member)
      (rest : LeadsTo part part? item (some member) steps) :
      LeadsTo part part? v (some (.array values)) (.index place :: steps)

/-- What is found below a path is found in the part below its first step. -/
theorem filter_isBelow_cons {whole issues : List Issue} {step : Segment}
    (h : whole.filter (Issue.isBelow ⟨[step]⟩) = issues.map (Issue.under ⟨[step]⟩))
    (steps : List Segment) :
    whole.filter (Issue.isBelow ⟨step :: steps⟩) =
      (issues.filter (Issue.isBelow ⟨steps⟩)).map (Issue.under ⟨[step]⟩) := by
  have hprefix : ∀ issue : Issue, issue.isBelow ⟨step :: steps⟩ → issue.isBelow ⟨[step]⟩ := by
    intro issue hbelow
    have hsteps := List.isPrefixOf_iff_prefix.mp hbelow
    exact List.isPrefixOf_iff_prefix.mpr ((List.prefix_append [step] steps).trans hsteps)
  calc whole.filter (Issue.isBelow ⟨step :: steps⟩)
      = (whole.filter (Issue.isBelow ⟨[step]⟩)).filter (Issue.isBelow ⟨step :: steps⟩) := by
        rw [List.filter_filter]
        apply List.filter_congr
        intro issue _
        rw [Bool.eq_self_and]
        exact hprefix issue
    _ = (issues.map (Issue.under ⟨[step]⟩)).filter (Issue.isBelow ⟨step :: steps⟩) := by rw [h]
    _ = (issues.filter (Issue.isBelow ⟨steps⟩)).map (Issue.under ⟨[step]⟩) := by
        rw [List.filter_map]
        simp only [Function.comp_def, Issue.isBelow_under_step, beq_self_eq_true, Bool.true_and]

/-- The issues below a path are those of the part at its end, validated for itself. -/
theorem LeadsTo.filter_isBelow_found {part : Validator} {part? : Option Json}
    {steps : List Segment} (h : LeadsTo part part? v value? steps) :
    (v.found value?).filter (Issue.isBelow ⟨steps⟩) =
      (part.found part?).map (Issue.under ⟨steps⟩) := by
  have hunder : ∀ (step : Segment) (steps : List Segment) (issues : List Issue),
      (issues.map (Issue.under ⟨steps⟩)).map (Issue.under ⟨[step]⟩) =
        issues.map (Issue.under ⟨step :: steps⟩) := by
    intro step steps issues
    rw [List.map_map]
    exact List.map_congr_left fun issue _ ↦ Issue.under_under ⟨[step]⟩ ⟨steps⟩ issue
  -- Each step keeps the issues of one part, and puts itself in front of their paths.
  induction h with
  | here =>
    rw [List.filter_eq_self.mpr fun issue _ ↦ issue.isBelow_nil]
    exact (Issue.map_under_root _).symm
  | key hkind hdistinct hfield _ ih =>
    rw [filter_isBelow_cons (filter_isBelow_key hkind hdistinct hfield _), ih, hunder]
  | index hkind hmember _ ih =>
    rw [filter_isBelow_cons (filter_isBelow_index hkind hmember), ih, hunder]

/-- Reports are complete, exact and in order. The issues in the parts of a value come first: in an
object those of its fields in the order of their declarations, then one for each member that is
refused; in a list those of its items in order; in a union one if no alternative accepts the value.
Only if there are none, the checks that the value fails are reported, and if it fails none, the
refinements. At whatever depth a part stands, its own issues are reported there, and no others. -/
theorem found_complete (v : Validator) (value : Json) :
    (∀ fields policy members, v.kind = .object fields policy → value = .object members →
      foundAlong v.kind value =
        foundInFields fields members ++ policy.issues (undeclared (keys fields) members)) ∧
    (∀ item values, v.kind = .array item → value = .array values →
      foundAlong v.kind value = foundInItems item values) ∧
    (∀ first second, v.kind = .union first second →
      foundAlong v.kind value =
        if first.found (some value) = [] ∨ second.found (some value) = [] then []
        else [⟨.root, .noAlternative⟩]) ∧
    (foundAlong v.kind value ≠ [] → v.found (some value) = foundAlong v.kind value) ∧
    (foundAlong v.kind value = [] → ∃ parsed, (parse v.kind value .start).1 = some parsed ∧
      v.found (some value) =
        (objections v.checks v.refinements parsed).map fun reason ↦ ⟨.root, reason⟩) ∧
    ∀ part part? steps, LeadsTo part part? v (some value) steps →
      (v.found (some value)).filter (Issue.isBelow ⟨steps⟩) =
        (part.found part?).map (Issue.under ⟨steps⟩) := by
  refine ⟨?_, ?_, ?_, found_of_foundAlong_ne_nil, found_of_foundAlong_eq_nil, ?_⟩
  · rintro fields policy members hkind rfl
    rw [hkind, foundAlong_object]
  · rintro item values hkind rfl
    rw [hkind, foundAlong_array]
  · intro first second hkind
    rw [hkind, foundAlong_union]
  · intro part part? steps hleads
    exact hleads.filter_isBelow_found

/-- A form with a name of two characters or more and a list of numbers, and nothing else. -/
def form : Validator :=
  { kind := .object
      [("name", { kind := .string, checks := [.minLength 2] }),
        ("scores", { kind := .array (.number false) })] .reject
    refinements := [⟨"unique", fun _ ↦ false⟩] }

/-- A form filled in wrongly in four places. -/
def filledForm : Json :=
  .object [("scores", .array [.ofInt 3, .null, .string "x"]), ("age", .null),
    ("name", .string "a")]

/-- All four faults are reported: those of the fields first, in the order of the declarations. -/
theorem found_filledForm :
    form.found (some filledForm) =
      [⟨⟨[.key "name"]⟩, .tooShort 2⟩,
        ⟨⟨[.key "scores", .index 1]⟩, .mismatch "number" .null⟩,
        ⟨⟨[.key "scores", .index 2]⟩, .mismatch "number" .string⟩,
        ⟨⟨[.key "age"]⟩, .unrecognizedKey⟩] ∧
      (form.found (some filledForm)).filter (Issue.isBelow ⟨[.key "scores", .index 2]⟩) =
        ((Validator.number false).found (some (.string "x"))).map
          (Issue.under ⟨[.key "scores", .index 2]⟩) := by
  obtain ⟨hobject, -, -, hparts, -, hbelow⟩ := found_complete form filledForm
  constructor
  · rw [hparts (by decide +kernel), hobject _ _ _ rfl rfl]
    decide +kernel
  · exact hbelow _ _ _ (.key rfl (by decide) (.tail _ (.head _)) (.index rfl rfl .here))

end Validator

end ToolSchema
