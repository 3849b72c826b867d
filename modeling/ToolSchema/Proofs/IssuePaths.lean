import ToolSchema.Proofs.Defaults

/-!
# Where issues point

The path of an issue is a way into the payload itself. It ends at the value that was refused, or it
ends in a key that an object of the payload lacks. Nothing that a validator puts in place of missing
data is ever pointed at: the defaults of a compiled validator pass, so what is filled in has no
issues.
-/

namespace ToolSchema

namespace Json

/-- The part of a document one step further. -/
def step? : Segment → Json → Option Json
  | .key name, object members => lookup name members
  | .index place, array items => items[place]?
  | _, _ => none

/-- The part of a document at the end of a path. -/
def at? (value : Json) : List Segment → Option Json
  | [] => some value
  | step :: steps => (value.step? step).bind fun part ↦ part.at? steps

end Json

namespace Issue

/-- The path of an issue leads to a part of a document. Or the issue is that something is missing:
the path leads to an object, and then to a key that the object lacks. -/
def PointsInto (value : Json) (issue : Issue) : Prop :=
  (value.at? issue.path.segments).isSome ∨
    issue.reason = .missing ∧ ∃ outer key members, issue.path.segments = outer ++ [.key key] ∧
      value.at? outer = some (.object members) ∧ key ∉ keys members

theorem pointsInto_root (value : Json) (reason : Reason) : PointsInto value ⟨.root, reason⟩ :=
  .inl rfl

/-- What points into a part points into the whole, seen from there. -/
theorem PointsInto.under {value part : Json} {segment : Segment} {issue : Issue}
    (hstep : value.step? segment = some part) (h : issue.PointsInto part) :
    (issue.under ⟨[segment]⟩).PointsInto value := by
  have hat : ∀ steps, value.at? (segment :: steps) = part.at? steps := by
    intro steps
    rw [Json.at?, hstep, Option.bind_some]
  rcases h with hpart | ⟨hreason, outer, key, members, hpath, houter, hlacks⟩
  · left
    exact (congrArg Option.isSome (hat _)).trans hpart
  · right
    refine ⟨hreason, segment :: outer, key, members, ?_, ?_, hlacks⟩
    · exact congrArg (List.cons segment) hpath
    · rw [hat, houter]

/-- The issue that a key is missing points to the object that lacks it. -/
theorem pointsInto_missing {members : List (String × Json)} {key : String}
    (hlacks : key ∉ keys members) :
    (under ⟨[.key key]⟩ ⟨.root, .missing⟩).PointsInto (.object members) :=
  .inr ⟨rfl, [], key, members, rfl, rfl, hlacks⟩

end Issue

namespace Validator

variable {v : Validator}

/-- All that can be wrong with a missing value is that it is missing. -/
theorem DefaultPasses.eq_missing_of_mem_found (h : v.DefaultPasses) :
    ∀ issue ∈ v.found none, issue = ⟨.root, .missing⟩ := by
  cases hdefault : v.default with
  | some default =>
    rw [h.found_none hdefault]
    exact List.forall_mem_nil _
  | none =>
    rw [found_eq, judge_none, hdefault]
    cases v.optional <;> simp [Verdict.refuse]

/-! ## Along the kinds -/

/-- A default that passes has no issues, so that nothing but its absence can be said of a missing
member. -/
theorem pointsInto_of_mem_foundInFields {fields : List (String × Validator)}
    (hpasses : ∀ field ∈ fields.map Prod.snd, field.DefaultPasses)
    (ih : ∀ field ∈ fields.map Prod.snd, ∀ value,
      ∀ issue ∈ field.found (some value), issue.PointsInto value)
    (members : List (String × Json)) :
    ∀ issue ∈ foundInFields fields members, issue.PointsInto (.object members) := by
  intro issue hissue
  obtain ⟨⟨key, field⟩, hfield, hunder⟩ := List.mem_flatMap.mp hissue
  obtain ⟨inner, hinner, rfl⟩ := List.mem_map.mp hunder
  have hmem : field ∈ fields.map Prod.snd := List.mem_map.mpr ⟨_, hfield, rfl⟩
  cases hlookup : lookup key members with
  | some value =>
    rw [hlookup] at hinner
    exact (ih field hmem value inner hinner).under hlookup
  | none =>
    rw [hlookup] at hinner
    rw [(hpasses field hmem).eq_missing_of_mem_found inner hinner]
    exact Issue.pointsInto_missing (lookup_eq_none_iff.mp hlookup)

theorem pointsInto_of_mem_foundInItems {item : Validator}
    (ih : ∀ value, ∀ issue ∈ item.found (some value), issue.PointsInto value)
    (values : List Json) :
    ∀ issue ∈ foundInItems item values, issue.PointsInto (.array values) := by
  intro issue hissue
  obtain ⟨⟨value, place⟩, hvalue, hunder⟩ := List.mem_flatMap.mp hissue
  obtain ⟨inner, hinner, rfl⟩ := List.mem_map.mp hunder
  have hstep : (Json.array values).step? (.index place) = some value :=
    List.mem_zipIdx_iff_getElem?.mp hvalue
  exact (ih value inner hinner).under hstep

/-- A key that is refused is a key of the object. -/
theorem pointsInto_of_mem_unknown (policy : UnknownKeys) (declared : List String)
    (members : List (String × Json)) :
    ∀ issue ∈ policy.issues (undeclared declared members), issue.PointsInto (.object members) := by
  intro issue hissue
  cases policy with
  | reject =>
    obtain ⟨⟨key, value⟩, hmember, rfl⟩ := List.mem_map.mp hissue
    have hkey : key ∈ keys members := List.mem_map_of_mem (List.mem_filter.mp hmember).1
    obtain ⟨given, hgiven⟩ := Option.isSome_iff_exists.mp (lookup_isSome_iff.mpr hkey)
    have hstep : (Json.object members).step? (.key key) = some given := hgiven
    exact (Issue.pointsInto_root given .unrecognizedKey).under hstep
  | _ => cases hissue

/-- A kind without parts refuses a value where it stands. -/
theorem path_eq_root_of_mem_foundAlong {kind : ValidatorKind Validator} {value : Json}
    (harray : ∀ item values, kind = .array item → value ≠ .array values)
    (hobject : ∀ fields policy members, kind = .object fields policy → value ≠ .object members) :
    ∀ issue ∈ foundAlong kind value, issue.path = .root := by
  rw [foundAlong_eq]
  fun_cases judgeKind kind value
  all_goals simp_all [Verdict.mismatch, Verdict.refuse]

/-- Whatever is found in a value points into it, where all defaults pass. -/
theorem pointsInto_of_mem_found (h : v.Everywhere DefaultPasses) : ∀ value,
    ∀ issue ∈ v.found (some value), issue.PointsInto value := by
  induction h with
  | @intro v here hparts ih =>
    intro value
    have halong : ∀ issue ∈ foundAlong v.kind value, issue.PointsInto value := by
      by_cases hobject : ∃ fields policy members,
          v.kind = .object fields policy ∧ value = .object members
      · obtain ⟨fields, policy, members, hkind, rfl⟩ := hobject
        have hfields : v.parts = fields.map Prod.snd := by rw [parts, hkind]
        rw [hfields] at hparts ih
        rw [hkind, foundAlong_object, List.forall_mem_append]
        exact ⟨pointsInto_of_mem_foundInFields (fun field hfield ↦ (hparts field hfield).here) ih
          members, pointsInto_of_mem_unknown policy _ members⟩
      by_cases harray : ∃ item values, v.kind = .array item ∧ value = .array values
      · obtain ⟨item, values, hkind, rfl⟩ := harray
        have hitem : item ∈ v.parts := by simp [parts, hkind]
        rw [hkind, foundAlong_array]
        exact pointsInto_of_mem_foundInItems (ih item hitem) values
      intro issue hissue
      have hroot : issue.path = .root := by
        apply path_eq_root_of_mem_foundAlong _ _ issue hissue
        · exact fun item values hkind hvalue ↦ harray ⟨item, values, hkind, hvalue⟩
        · exact fun fields policy members hkind hvalue ↦
            hobject ⟨fields, policy, members, hkind, hvalue⟩
      exact .inl (by rw [hroot]; rfl)
    by_cases hnil : foundAlong v.kind value = []
    · obtain ⟨parsed, -, hfound⟩ := found_of_foundAlong_eq_nil hnil
      rw [hfound, List.forall_mem_map]
      exact fun reason _ ↦ Issue.pointsInto_root value reason
    · rw [found_of_foundAlong_ne_nil hnil]
      exact halong

end Validator

namespace Compiler

/-- Whatever the options, the issues for which a compiled validator rejects a value point into the
value: each path leads to a part of it, or to a key that is missing from an object in it. -/
theorem issues_point_into_payload {compiler : Compiler} {shape : Shape} {field : Field}
    {v : Validator} (h : (compiler.compileShaped shape field).outcome = .ok v) {value : Json}
    {rejection : Rejection} (hrejects : v.validate value = .error rejection) :
    ∀ issue ∈ rejection.issues, issue.PointsInto value := by
  obtain rfl := eq_of_yields_compileShaped h
  let s := compiler.setting (compiler.options.coercion.resolve shape)
  have hfound : rejection.issues = (field.validator s).found (some value) := by
    calc rejection.issues
        = (field.validator s).issues value := by rw [Validator.issues, hrejects]
      _ = (field.validator s).found (some value) := by
        rw [Validator.issues_eq, Validator.found_eq]
  rw [hfound]
  exact Validator.pointsInto_of_mem_found (field.everywhere_defaultPasses_validator s) value

/-- A basket: items with a name and a count, and a payment, which by default is made in cash. -/
def basket : Field :=
  let item : Field :=
    { kind := .object
      children := some [{ name := "name", kind := .string }, { name := "count", kind := .number }] }
  let payment : Field :=
    { name := "payment", kind := .union
      children := some [{ kind := .enumeration, members := some ["cash", "card"] },
        { kind := .object, children := some [{ name := "iban", kind := .string }] }]
      rules := some { default := some (.string "cash") } }
  { kind := .object
    children := some [{ name := "items", kind := .array, children := some [item] }, payment] }

/-- A basket without a payment, whose second item has neither a name nor a proper count. -/
def filledBasket : Json :=
  .object [("coupon", .null),
    ("items", .array [.object [("name", .string "tea"), ("count", .ofInt 2)],
      .object [("count", .bool true)]])]

/-- The issues of the basket point to the missing name, to the count, and to a key that is not
declared; the payment that is filled in has none. -/
theorem basket_issues_point_into_payload :
    ∃ v issues, (Compiler.compile ⟨⟨.default, .reject, false⟩, .builtin⟩ basket).outcome = .ok v ∧
      v.validate filledBasket = .error ⟨issues⟩ ∧
      issues.map Issue.path = [⟨[.key "items", .index 1, .key "name"]⟩,
        ⟨[.key "items", .index 1, .key "count"]⟩, ⟨[.key "coupon"]⟩] ∧
      ∀ issue ∈ issues, issue.PointsInto filledBasket := by
  let compiler : Compiler := ⟨⟨.default, .reject, false⟩, .builtin⟩
  let v := basket.validator (compiler.setting true)
  have h : (compiler.compile basket).outcome = .ok v := by rfl
  have hrejects : v.validate filledBasket = .error
      ⟨[⟨⟨[.key "items", .index 1, .key "name"]⟩, .missing⟩,
        ⟨⟨[.key "items", .index 1, .key "count"]⟩, .mismatch "number" .boolean⟩,
        ⟨⟨[.key "coupon"]⟩, .unrecognizedKey⟩]⟩ := by cbv
  exact ⟨v, _, h, hrejects, rfl, issues_point_into_payload h hrejects⟩

end Compiler

end ToolSchema
