import ToolSchema.Proofs.Defaults
import ToolSchema.Proofs.Members

/-!
# The order of members

The members of an object may come in any order. A validator looks each declared key up, and walks
the undeclared members in the order in which they come; so of two documents that differ in the order
of members only, it accepts both or none. What comes out differs in the order of undeclared members
only, and of the issues, only those of undeclared members change places.
-/

namespace ToolSchema

/-- In a table, what stands under a key does not depend on the order. -/
theorem lookup_eq_of_perm {α : Type} {table other : List (String × α)}
    (hdistinct : (keys table).Nodup) (hperm : table.Perm other) (key : String) :
    lookup key table = lookup key other := by
  have hother : (keys other).Nodup := (hperm.map Prod.fst).nodup_iff.mp hdistinct
  apply Option.ext
  intro value
  constructor
  · intro h
    exact lookup_of_mem hother (hperm.mem_iff.mp (mem_of_lookup h))
  · intro h
    exact lookup_of_mem hdistinct (hperm.mem_iff.mpr (mem_of_lookup h))

/-! ## Documents up to order -/

namespace Json

/-- Equal but for the order of the members of objects, at every depth. Objects whose members may be
in another order have each key once. -/
inductive UpToOrder : Json → Json → Prop
  | refl (value : Json) : UpToOrder value value
  | array {values others : List Json} (items : List.Forall₂ UpToOrder values others) :
    UpToOrder (.array values) (.array others)
  | object {members others : List (String × Json)} (distinct : (keys members).Nodup)
    (sameKeys : (keys members).Perm (keys others))
    (values : ∀ key value other, lookup key members = some value → lookup key others = some other →
      UpToOrder value other) : UpToOrder (.object members) (.object others)

namespace UpToOrder

variable {value other : Json} {members others : List (String × Json)}

theorem number?_eq (h : value.UpToOrder other) : value.number? = other.number? := by
  cases h <;> rfl

theorem text?_eq (h : value.UpToOrder other) : value.text? = other.text? := by
  cases h <;> rfl

theorem option_refl (value? : Option Json) : Option.Rel UpToOrder value? value? := by
  cases value? with
  | none => exact .none
  | some value => exact .some (refl value)

theorem isSome_iff_of_rel {value? other? : Option Json} (h : Option.Rel UpToOrder value? other?) :
    value?.isSome ↔ other?.isSome := by
  cases h <;> simp

/-- Under each key both objects have a value, or neither has one. -/
theorem lookup_rel (hkeys : (keys members).Perm (keys others))
    (hvalues : ∀ key value other, lookup key members = some value →
      lookup key others = some other → UpToOrder value other) (key : String) :
    Option.Rel UpToOrder (lookup key members) (lookup key others) := by
  cases hvalue : lookup key members with
  | none =>
    have hnone : lookup key others = none := by
      rw [lookup_eq_none_iff] at hvalue ⊢
      rwa [← hkeys.mem_iff]
    rw [hnone]
    exact .none
  | some value =>
    have hsome : (lookup key others).isSome := by
      rw [lookup_isSome_iff, ← hkeys.mem_iff, ← lookup_isSome_iff, hvalue, Option.isSome_some]
    obtain ⟨other, hother⟩ := Option.isSome_iff_exists.mp hsome
    rw [hother]
    exact .some (hvalues key value other hvalue hother)

/-- Objects with each key once are equal up to order if the same holds under each key. -/
theorem of_lookup_rel (hmembers : (keys members).Nodup) (hothers : (keys others).Nodup)
    (h : ∀ key, Option.Rel UpToOrder (lookup key members) (lookup key others)) :
    UpToOrder (.object members) (.object others) := by
  refine .object hmembers ?_ ?_
  · rw [List.perm_ext_iff_of_nodup hmembers hothers]
    intro key
    rw [← lookup_isSome_iff, ← lookup_isSome_iff]
    exact isSome_iff_of_rel (h key)
  · intro key value other hvalue hother
    have hrel := h key
    rw [hvalue, hother] at hrel
    cases hrel with
    | some hrel => exact hrel

theorem lookup_rel_of_forall₂
    (h : List.Forall₂ (fun pair other ↦ pair.1 = other.1 ∧ UpToOrder pair.2 other.2) members others)
    (key : String) : Option.Rel UpToOrder (lookup key members) (lookup key others) := by
  induction h with
  | nil => exact .none
  | @cons pair other _ _ hpair _ ih =>
    obtain ⟨name, value⟩ := pair
    obtain ⟨otherName, otherValue⟩ := other
    obtain ⟨rfl, hvalue⟩ := hpair
    rw [lookup_cons, lookup_cons]
    by_cases hname : name = key
    · rw [if_pos hname, if_pos hname]
      exact .some hvalue
    · rw [if_neg hname, if_neg hname]
      exact ih

/-- The values may be put in another order inside, and then the members themselves. -/
theorem object_of_perm {middle : List (String × Json)} (hdistinct : (keys others).Nodup)
    (hvalues : List.Forall₂ (fun pair other ↦ pair.1 = other.1 ∧ UpToOrder pair.2 other.2)
      members middle) (hperm : middle.Perm others) :
    UpToOrder (.object members) (.object others) := by
  have hkeys : keys members = keys middle := by
    rw [keys, keys, ← List.forall₂_eq_eq_eq, List.forall₂_map_left_iff, List.forall₂_map_right_iff]
    exact hvalues.imp fun _ _ h ↦ h.1
  have hmiddle : (keys middle).Nodup := (hperm.map Prod.fst).nodup_iff.mpr hdistinct
  refine of_lookup_rel (hkeys ▸ hmiddle) hdistinct fun key ↦ ?_
  rw [← lookup_eq_of_perm hmiddle hperm]
  exact lookup_rel_of_forall₂ hvalues key

/-- Members may be put in another order where the keys are distinct. -/
theorem of_perm (hdistinct : (keys others).Nodup) (hperm : members.Perm others) :
    UpToOrder (.object members) (.object others) :=
  object_of_perm hdistinct (List.forall₂_same.mpr fun _ _ ↦ ⟨rfl, refl _⟩) hperm

end UpToOrder

end Json

open Json

namespace Verdict

/-- Two verdicts agree: what comes out is equal up to order, and the issues are the same ones in
perhaps another order. -/
structure AgreesWith (verdict other : Verdict) : Prop where
  value? : Option.Rel UpToOrder verdict.value? other.value?
  issues : verdict.issues.Perm other.issues

variable {verdict other : Verdict}

theorem AgreesWith.refl (verdict : Verdict) : verdict.AgreesWith verdict :=
  ⟨UpToOrder.option_refl _, .refl _⟩

theorem AgreesWith.ofParts {issues others : List Issue} {value other : Json}
    (hissues : issues.Perm others) (hvalue : value.UpToOrder other) :
    (Verdict.ofParts issues value).AgreesWith (Verdict.ofParts others other) := by
  refine ⟨?_, by rwa [issues_ofParts, issues_ofParts]⟩
  rw [value?_ofParts, value?_ofParts]
  by_cases hnil : issues = []
  · have hothers : others = [] := by rwa [hnil, List.nil_perm] at hissues
    rw [if_pos hnil, if_pos hothers]
    exact .some hvalue
  · have hothers : others ≠ [] := by
      rintro rfl
      exact hnil hissues.eq_nil
    rw [if_neg hnil, if_neg hothers]
    exact .none

/-! ## Items -/

theorem itemIssues_perm {verdicts others : List Verdict}
    (h : List.Forall₂ AgreesWith verdicts others) (place : Nat) :
    (itemIssues place verdicts).Perm (itemIssues place others) := by
  induction h generalizing place with
  | nil => rfl
  | cons hfirst _ ih =>
    rw [itemIssues_cons, itemIssues_cons]
    exact (hfirst.issues.map _).append (ih (place + 1))

theorem filterMap_value?_rel {verdicts others : List Verdict}
    (h : List.Forall₂ AgreesWith verdicts others) :
    List.Forall₂ UpToOrder (verdicts.filterMap Verdict.value?)
      (others.filterMap Verdict.value?) := by
  induction h with
  | nil => exact .nil
  | @cons verdict other _ _ hfirst _ ih =>
    obtain ⟨value?, issues⟩ := verdict
    obtain ⟨other?, others⟩ := other
    have hrel : Option.Rel UpToOrder value? other? := hfirst.value?
    -- an item that does not pass leaves no place empty, in neither list
    cases hrel with
    | none => exact ih
    | some hrel => exact .cons hrel ih

end Verdict

/-! ## Checks and refinements -/

/-- Whether a predicate says the same of values that are equal up to order. -/
def Predicate.IgnoresOrder (predicate : Predicate) : Prop :=
  ∀ value other : Json, value.UpToOrder other → predicate value = predicate other

theorem Predicate.nonEmpty_eq_of_upToOrder {value other : Json} (h : value.UpToOrder other) :
    nonEmpty value = nonEmpty other := by
  cases h with
  | refl => rfl
  | array hitems => cases hitems <;> rfl
  | @object members others _ hkeys _ =>
    have hempty : members.isEmpty = others.isEmpty := by simpa [keys] using hkeys.isEmpty_eq
    simp only [nonEmpty, hempty]

/-- The predicates that are always at hand ignore the order of members. -/
theorem Predicates.ignoresOrder_builtin {name : String} {predicate : Predicate}
    (h : builtin.get? name = some predicate) : predicate.IgnoresOrder := by
  intro value other hequal
  have hmem := mem_of_lookup h
  simp only [builtin, List.mem_cons, Prod.mk.injEq, List.not_mem_nil, or_false] at hmem
  rcases hmem with ⟨-, rfl⟩ | ⟨-, rfl⟩ | ⟨-, rfl⟩ | ⟨-, rfl⟩ | ⟨-, rfl⟩
  · exact Predicate.nonEmpty_eq_of_upToOrder hequal
  · simp only [Predicate.integer, hequal.number?_eq]
  · simp only [Predicate.positive, hequal.number?_eq]
  · simp only [Predicate.nonNegative, hequal.number?_eq]
  · simp only [Predicate.trimmed, hequal.text?_eq]

theorem Check.failure?_eq_of_upToOrder {value other : Json} (h : value.UpToOrder other)
    (check : Check) : check.failure? value = check.failure? other := by
  cases check <;> simp only [failure?, h.number?_eq, h.text?_eq]

/-- Checks look at numbers and texts only, which have no order to be changed. -/
theorem objections_eq_of_upToOrder {value other : Json} (h : value.UpToOrder other)
    (checks : List Check) {refinements : List Refinement}
    (hrefinements : ∀ refinement ∈ refinements, refinement.predicate.IgnoresOrder) :
    objections checks refinements value = objections checks refinements other := by
  have hfailures : Check.failure? value = Check.failure? other :=
    funext (Check.failure?_eq_of_upToOrder h)
  have hfailed : (refinements.filter fun r ↦ !r.predicate value) =
      refinements.filter fun r ↦ !r.predicate other := by
    apply List.filter_congr
    intro refinement hmem
    rw [hrefinements refinement hmem value other h]
  rw [objections, objections, hfailures, hfailed]

theorem Verdict.AgreesWith.conclude {verdict other : Verdict} (h : verdict.AgreesWith other)
    (checks : List Check) {refinements : List Refinement}
    (hrefinements : ∀ refinement ∈ refinements, refinement.predicate.IgnoresOrder) :
    (verdict.conclude checks refinements).AgreesWith (other.conclude checks refinements) := by
  obtain ⟨value?, issues⟩ := verdict
  obtain ⟨other?, others⟩ := other
  have hrel : Option.Rel UpToOrder value? other? := h.value?
  cases hrel with
  | none => exact h
  | some hrel =>
    show (Verdict.ofParts _ _).AgreesWith (Verdict.ofParts _ _)
    rw [objections_eq_of_upToOrder hrel checks hrefinements]
    exact .ofParts (.refl _) hrel

/-! ## Validators -/

/-- Undeclared members are reported in the order in which they stand. -/
theorem UnknownKeys.issues_perm (policy : UnknownKeys) (declared : List String)
    {members others : List (String × Json)} (h : (keys members).Perm (keys others)) :
    (policy.issues (undeclared declared members)).Perm
      (policy.issues (undeclared declared others)) := by
  cases policy with
  | reject =>
    have hissues : ∀ members, UnknownKeys.reject.issues (undeclared declared members) =
        (keys (undeclared declared members)).map fun key ↦ ⟨.key .root key, .unrecognizedKey⟩ := by
      intro members
      simp [issues, keys]
    rw [hissues, hissues, keys_undeclared, keys_undeclared]
    exact (h.filter _).map _
  | passthrough | strip => exact .refl _

namespace Validator

variable {v : Validator}

/-- The verdicts of a validator agree on values that are equal up to order. -/
def IgnoresOrder (v : Validator) : Prop :=
  ∀ value other : Json, value.UpToOrder other →
    (v.judge (some value)).AgreesWith (v.judge (some other))

theorem IgnoresOrder.judge (h : v.IgnoresOrder) {value? other? : Option Json}
    (hrel : Option.Rel UpToOrder value? other?) : (v.judge value?).AgreesWith (v.judge other?) := by
  cases hrel with
  | none => exact .refl _
  | some hrel => exact h _ _ hrel

section Members

variable {fields : List (String × Validator)} {members others : List (String × Json)}

/-- Fields are walked as they are declared, so that only issues inside of one may change places. -/
theorem fieldIssues_perm (hfields : ∀ field ∈ fields.map Prod.snd, field.IgnoresOrder)
    (hlookup : ∀ key, Option.Rel UpToOrder (lookup key members) (lookup key others)) :
    (Verdict.fieldIssues (judgeFields fields members)).Perm
      (Verdict.fieldIssues (judgeFields fields others)) := by
  induction fields with
  | nil => exact .refl _
  | cons pair rest ih =>
    obtain ⟨name, field⟩ := pair
    rw [List.map_cons, List.forall_mem_cons] at hfields
    have hfield := hfields.1.judge (hlookup name)
    rw [judgeFields, judgeFields, Verdict.fieldIssues_cons, Verdict.fieldIssues_cons]
    exact (hfield.issues.map _).append (ih hfields.2)

/-- The members that come of two objects are equal up to order. The declared ones stand in the order
of their declarations in both. -/
theorem membersOut_rel (hdistinct : (keys fields).Nodup) (policy : UnknownKeys)
    (hfields : ∀ field ∈ fields.map Prod.snd, field.IgnoresOrder)
    (hlookup : ∀ key, Option.Rel UpToOrder (lookup key members) (lookup key others))
    (key : String) :
    Option.Rel UpToOrder (lookup key (membersOut fields policy members))
      (lookup key (membersOut fields policy others)) := by
  rw [lookup_membersOut hdistinct, lookup_membersOut hdistinct]
  cases hfield : lookup key fields with
  | some field =>
    have hmem : field ∈ fields.map Prod.snd := List.mem_map.mpr ⟨_, mem_of_lookup hfield, rfl⟩
    exact ((hfields field hmem).judge (hlookup key)).value?
  | none =>
    cases policy with
    | passthrough => exact hlookup key
    | strip | reject => exact .none

theorem agreesWith_object (hdistinct : (keys fields).Nodup) (policy : UnknownKeys)
    (hfields : ∀ field ∈ fields.map Prod.snd, field.IgnoresOrder)
    (hmembers : (keys members).Nodup) (hkeys : (keys members).Perm (keys others))
    (hlookup : ∀ key, Option.Rel UpToOrder (lookup key members) (lookup key others)) :
    (judgeKind (.object fields policy) (.object members)).AgreesWith
      (judgeKind (.object fields policy) (.object others)) := by
  have hothers : (keys others).Nodup := hkeys.nodup_iff.mp hmembers
  rw [judgeKind_object, judgeKind_object]
  apply Verdict.AgreesWith.ofParts
  · exact (fieldIssues_perm hfields hlookup).append (policy.issues_perm _ hkeys)
  · exact .of_lookup_rel (nodup_keys_membersOut hdistinct policy hmembers)
      (nodup_keys_membersOut hdistinct policy hothers)
      (membersOut_rel hdistinct policy hfields hlookup)

end Members

theorem agreesWith_array {item : Validator} (hitem : item.IgnoresOrder) {values others : List Json}
    (h : List.Forall₂ UpToOrder values others) :
    (judgeKind (.array item) (.array values)).AgreesWith
      (judgeKind (.array item) (.array others)) := by
  have hverdicts : List.Forall₂ Verdict.AgreesWith
      (values.map fun value ↦ item.judge (some value))
      (others.map fun value ↦ item.judge (some value)) := by
    rw [List.forall₂_map_left_iff, List.forall₂_map_right_iff]
    exact h.imp hitem
  rw [judgeKind, judgeKind]
  exact .ofParts (Verdict.itemIssues_perm hverdicts 0)
    (.array (Verdict.filterMap_value?_rel hverdicts))

/-- The same alternative counts, as each of them accepts both values or neither. -/
theorem agreesWith_union {first second : Validator} (hfirst : first.IgnoresOrder)
    (hsecond : second.IgnoresOrder) {value other : Json} (h : value.UpToOrder other) :
    (judgeKind (.union first second) value).AgreesWith
      (judgeKind (.union first second) other) := by
  have hleft := (hfirst value other h).value?
  have hright := (hsecond value other h).value?
  rw [judgeKind, judgeKind]
  generalize (first.judge (some value)).value? = left at hleft ⊢
  generalize (first.judge (some other)).value? = left' at hleft ⊢
  generalize (second.judge (some value)).value? = right at hright ⊢
  generalize (second.judge (some other)).value? = right' at hright ⊢
  cases hleft with
  | some hleft => exact ⟨.some hleft, .refl _⟩
  | none =>
    cases hright with
    | some hright => exact ⟨.some hright, .refl _⟩
    | none => exact .refl _

/-- The verdicts of a kind agree if those of the parts do. -/
theorem agreesWith_judgeKind (hdistinct : v.FieldsDistinct)
    (ih : ∀ part ∈ v.parts, part.IgnoresOrder) {value other : Json} (h : value.UpToOrder other) :
    (judgeKind v.kind value).AgreesWith (judgeKind v.kind other) := by
  unfold FieldsDistinct at hdistinct
  unfold parts at ih
  cases hkind : v.kind with
  | any => exact ⟨.some h, .refl _⟩
  | union first second =>
    simp only [hkind, List.forall_mem_cons] at ih
    exact agreesWith_union ih.1 ih.2.1 h
  | array item =>
    simp only [hkind, List.forall_mem_singleton] at ih
    cases h with
    | array hitems => exact agreesWith_array ih hitems
    | refl | object => exact .refl _
  | object fields policy =>
    simp only [hkind] at ih
    cases h with
    | object hmembers hkeys hvalues =>
      exact agreesWith_object (hdistinct fields policy hkind) policy ih hmembers hkeys
        (UpToOrder.lookup_rel hkeys hvalues)
    | refl | array => exact .refl _
  | _ => cases h <;> exact .refl _

/-- A validator whose refinements do not look at the order of members. -/
def RefinementsIgnoreOrder (v : Validator) : Prop :=
  ∀ refinement ∈ v.refinements, refinement.predicate.IgnoresOrder

/-- A validator ignores the order of members if none of its refinements looks at it. -/
theorem ignoresOrder_of_everywhere
    (h : v.Everywhere fun node ↦ node.FieldsDistinct ∧ node.RefinementsIgnoreOrder) :
    v.IgnoresOrder := by
  induction h with
  | @intro v here _ ih =>
    intro value other hequal
    rw [judge_some, judge_some]
    exact (agreesWith_judgeKind here.1 ih hequal).conclude v.checks here.2

/-! ## Declared members first -/

/-- Wherever something was given by an object validator, the declared members stand first and in the
order of their declarations. What came of a union came of the first alternative that gives
anything. -/
inductive DeclaredFirst : Validator → Json → Json → Prop
  | object {v : Validator} {fields : List (String × Validator)} {policy : UnknownKeys}
    {members known others : List (String × Json)} (kind : v.kind = .object fields policy)
    (declared : (keys known).Sublist (keys fields))
    (undeclared : ∀ key ∈ keys others, key ∉ keys fields)
    (values : ∀ key field value out, (key, field) ∈ fields →
      value ∈ (lookup key members).or field.default → lookup key known = some out →
        DeclaredFirst field value out) :
    DeclaredFirst v (.object members) (.object (known ++ others))
  | array {v item : Validator} {values outs : List Json} (kind : v.kind = .array item)
    (length : values.length = outs.length)
    (items : ∀ value out, (value, out) ∈ values.zip outs → DeclaredFirst item value out) :
    DeclaredFirst v (.array values) (.array outs)
  | first {v first second : Validator} {value out : Json} (kind : v.kind = .union first second)
    (passes : first.accepts value) (chosen : DeclaredFirst first value out) :
    DeclaredFirst v value out
  | second {v first second : Validator} {value out : Json} (kind : v.kind = .union first second)
    (fails : first.accepts value = false) (chosen : DeclaredFirst second value out) :
    DeclaredFirst v value out
  | scalar {v : Validator} {value out : Json} (parts : v.parts = [])
    (kind : ∀ fields policy, v.kind ≠ .object fields policy) : DeclaredFirst v value out

section DeclaredFirst

variable {fields : List (String × Validator)} {policy : UnknownKeys} {value out : Json}

theorem declaredFirst_object (hkind : v.kind = .object fields policy)
    (hdistinct : (keys fields).Nodup)
    (ih : ∀ field ∈ fields.map Prod.snd, ∀ value out,
      (field.judge (some value)).value? = some out → field.DeclaredFirst value out)
    (hout : (judgeKind (.object fields policy) value).value? = some out) :
    v.DeclaredFirst value out := by
  obtain ⟨members, rfl, rfl, -⟩ := exists_of_judgeKind_object hout
  refine .object hkind (sublist_keys_fieldMembers fields members)
    (keys_kept_notMem policy _ members) ?_
  intro key field value out hfield hvalue hlookup
  rw [lookup_fieldMembers hdistinct, lookup_of_mem hdistinct hfield, Option.bind_some] at hlookup
  obtain ⟨given, hgiven, hout⟩ := exists_judge_some hlookup
  obtain rfl : given = value := Option.mem_unique hgiven hvalue
  exact ih field (List.mem_map_of_mem hfield) given out hout

theorem declaredFirst_union {first second : Validator} (hkind : v.kind = .union first second)
    (hfirst : ∀ out, (first.judge (some value)).value? = some out → first.DeclaredFirst value out)
    (hsecond : ∀ out, (second.judge (some value)).value? = some out →
      second.DeclaredFirst value out)
    (hout : (judgeKind (.union first second) value).value? = some out) :
    v.DeclaredFirst value out := by
  rw [value?_judgeKind_union] at hout
  cases hleft : (first.judge (some value)).value? with
  | some left =>
    have hpasses : first.accepts value := by rw [accepts_iff, hleft, Option.isSome_some]
    rw [hleft, Option.some_or] at hout
    exact .first hkind hpasses (hfirst out (hleft.trans hout))
  | none =>
    have hfails : first.accepts value = false := by
      rw [← Bool.not_eq_true, accepts_iff, hleft]
      exact Bool.false_ne_true
    rw [hleft, Option.none_or] at hout
    exact .second hkind hfails (hsecond out hout)

theorem declaredFirst_of_judge (h : v.Everywhere FieldsDistinct) : ∀ value out,
    (v.judge (some value)).value? = some out → v.DeclaredFirst value out := by
  induction h with
  | @intro v here _ ih =>
    intro value out hout
    replace hout := (value?_judge_some_eq_some_iff.mp hout).1
    unfold parts at ih
    cases hkind : v.kind with
    | object fields policy =>
      simp only [hkind] at ih
      exact declaredFirst_object hkind (here fields policy hkind) ih (hkind ▸ hout)
    | array item =>
      simp only [hkind, List.forall_mem_singleton] at ih
      obtain ⟨values, outs, rfl, rfl, hitems⟩ := exists_of_judgeKind_array (hkind ▸ hout)
      refine .array hkind hitems.length_eq fun value out hmem ↦ ?_
      exact ih value out (List.forall₂_zip hitems hmem)
    | union first second =>
      simp only [hkind, List.forall_mem_cons] at ih
      exact declaredFirst_union hkind (ih.1 value) (ih.2.1 value) (hkind ▸ hout)
    | _ => exact .scalar (by simp [parts, hkind]) (by simp [hkind])

end DeclaredFirst

end Validator

namespace Field

/-- Where no registered predicate looks at the order of members, no compiled validator does. -/
theorem everywhere_refinementsIgnoreOrder_validator {s : Setting}
    (h : ∀ name predicate, s.predicates.get? name = some predicate → predicate.IgnoresOrder)
    (field : Field) : (field.validator s).Everywhere Validator.RefinementsIgnoreOrder := by
  refine (Everywhere.of_forall (fun _ ↦ trivial) field).validator ?_ fun node _ ↦ ?_
  · exact List.forall_mem_nil _
  · intro refinement hmem
    have hregistered : refinement ∈ (node.rules.getD {}).refinements s.predicates := by
      rwa [validator_eq] at hmem
    rw [Rules.refinements, Option.mem_toList] at hregistered
    obtain ⟨name, -, hname⟩ := Option.bind_eq_some_iff.mp hregistered
    obtain ⟨predicate, hpredicate, rfl⟩ := Option.map_eq_some_iff.mp hname
    exact h name predicate hpredicate

end Field

namespace Validator

variable {v : Validator}

/-- The order of members does not matter, as long as refinements do not look at it. Of two documents
that are equal up to order a validator accepts both or none. What it gives for them is equal up to
order, with the declared members first in both; or else the issues are the same up to order. -/
theorem validate_reordered (hdistinct : v.Everywhere FieldsDistinct)
    (hrefinements : v.Everywhere RefinementsIgnoreOrder) {value other : Json}
    (h : value.UpToOrder other) :
    ((∃ out, v.validate value = .ok out) ↔ ∃ out, v.validate other = .ok out) ∧
    (∀ out otherOut, v.validate value = .ok out → v.validate other = .ok otherOut →
      out.UpToOrder otherOut ∧ v.DeclaredFirst value out ∧ v.DeclaredFirst other otherOut) ∧
    ∀ rejection otherRejection, v.validate value = .error rejection →
      v.validate other = .error otherRejection →
        rejection.issues.Perm otherRejection.issues := by
  have hagree := ignoresOrder_of_everywhere (hdistinct.and hrefinements) value other h
  refine ⟨?_, ?_, ?_⟩
  · simp only [validate_eq_ok_iff, ← Option.isSome_iff_exists]
    exact UpToOrder.isSome_iff_of_rel hagree.value?
  · intro out otherOut hout hotherOut
    rw [validate_eq_ok_iff] at hout hotherOut
    have hequal := hagree.value?
    rw [hout, hotherOut] at hequal
    obtain ⟨hequal⟩ := hequal
    exact ⟨hequal, declaredFirst_of_judge hdistinct value out hout,
      declaredFirst_of_judge hdistinct other otherOut hotherOut⟩
  · intro rejection otherRejection hrejection hotherRejection
    have hissues : rejection.issues = v.issues value := by rw [issues, hrejection]
    have hotherIssues : otherRejection.issues = v.issues other := by rw [issues, hotherRejection]
    rw [hissues, hotherIssues, issues_eq, issues_eq]
    exact hagree.issues

/-- An itinerary: some legs, each from a place to another, and perhaps notes of any form. -/
def itinerary : Field :=
  let leg : Field :=
    { kind := .object
      children := some [{ name := "from", kind := .string }, { name := "to", kind := .string }] }
  { kind := .object
    children := some [
      { name := "legs", kind := .array, children := some [leg]
        rules := some { custom := some "nonEmpty" } },
      { name := "notes", kind := .file, rules := some { required := some false } }] }

def filledItinerary : Json :=
  .object [("notes", .object [("seat", .null), ("bags", .ofInt 2)]),
    ("legs", .array [.object [("via", .string "Voss"), ("to", .string "Oslo"),
      ("from", .string "Bergen"), ("late", .bool true)]])]

/-- The same itinerary with members of the whole, of the notes and of the leg in another order. -/
def reorderedItinerary : Json :=
  .object [("legs", .array [.object [("late", .bool true), ("from", .string "Bergen"),
      ("via", .string "Voss"), ("to", .string "Oslo")]]),
    ("notes", .object [("bags", .ofInt 2), ("seat", .null)])]

theorem upToOrder_itineraries : filledItinerary.UpToOrder reorderedItinerary := by
  let bags : List (String × Json) := [("seat", .null), ("bags", .ofInt 2)]
  let route : List (String × Json) := [("via", .string "Voss"), ("to", .string "Oslo")]
  let start : List (String × Json) := [("from", .string "Bergen"), ("late", .bool true)]
  let legs : Json := .array [.object (start.reverse ++ route)]
  have hbags : UpToOrder (.object bags) (.object bags.reverse) :=
    .of_perm (by decide) bags.reverse_perm.symm
  have hleg : UpToOrder (.object (route ++ start)) (.object (start.reverse ++ route)) := by
    apply UpToOrder.of_perm (by decide)
    exact List.perm_append_comm.trans (start.reverse_perm.symm.append_right route)
  have hperm : [("notes", .object bags.reverse), ("legs", legs)].Perm
      [("legs", legs), ("notes", .object bags.reverse)] := .swap _ _ _
  refine .object_of_perm (by decide) ?_ hperm
  exact .cons ⟨rfl, hbags⟩ (.cons ⟨rfl, .array (.cons hleg .nil)⟩ .nil)

/-- The itinerary passes in any order, and what is not declared stays behind what is, in the order
in which it came. Where it is refused, the issues come in that order. -/
theorem validate_itinerary_reordered :
    let v := itinerary.validator (Compiler.setting {} true)
    let strict := itinerary.validator (Compiler.setting ⟨⟨.default, .reject, false⟩, .builtin⟩ true)
    (∃ out otherOut, v.validate filledItinerary = .ok out ∧
      v.validate reorderedItinerary = .ok otherOut ∧ out.UpToOrder otherOut ∧
      v.DeclaredFirst filledItinerary out ∧ v.DeclaredFirst reorderedItinerary otherOut) ∧
    ∃ issues others, strict.validate filledItinerary = .error ⟨issues⟩ ∧
      strict.validate reorderedItinerary = .error ⟨others⟩ ∧ issues ≠ others ∧
      issues.Perm others := by
  intro v strict
  have hdistinct : ∀ s, (itinerary.validator s).Everywhere FieldsDistinct :=
    fun s ↦ itinerary.everywhere_fieldsDistinct_validator s
  have hrefinements : ∀ s : Setting, s.predicates = .builtin →
      (itinerary.validator s).Everywhere RefinementsIgnoreOrder := by
    intro s hbuiltin
    apply Field.everywhere_refinementsIgnoreOrder_validator
    intro name predicate hregistered
    rw [hbuiltin] at hregistered
    exact Predicates.ignoresOrder_builtin hregistered
  obtain ⟨-, hpass, -⟩ :=
    validate_reordered (hdistinct _) (hrefinements (Compiler.setting {} true) rfl)
      upToOrder_itineraries
  obtain ⟨-, -, hfail⟩ :=
    validate_reordered (hdistinct _)
      (hrefinements (Compiler.setting ⟨⟨.default, .reject, false⟩, .builtin⟩ true) rfl)
      upToOrder_itineraries
  have hout : v.validate filledItinerary = .ok (.object
      [("legs", .array [.object [("from", .string "Bergen"), ("to", .string "Oslo"),
          ("via", .string "Voss"), ("late", .bool true)]]),
        ("notes", .object [("seat", .null), ("bags", .ofInt 2)])]) := by cbv
  have hotherOut : v.validate reorderedItinerary = .ok (.object
      [("legs", .array [.object [("from", .string "Bergen"), ("to", .string "Oslo"),
          ("late", .bool true), ("via", .string "Voss")]]),
        ("notes", .object [("bags", .ofInt 2), ("seat", .null)])]) := by cbv
  let issue (key : String) : Issue := ⟨⟨[.key "legs", .index 0, .key key]⟩, .unrecognizedKey⟩
  have hissues : strict.validate filledItinerary = .error ⟨[issue "via", issue "late"]⟩ := by cbv
  have hothers : strict.validate reorderedItinerary = .error ⟨[issue "late", issue "via"]⟩ := by cbv
  refine ⟨⟨_, _, hout, hotherOut, hpass _ _ hout hotherOut⟩, _, _, hissues, hothers, ?_,
    hfail _ _ hissues hothers⟩
  simp [issue]

end Validator

end ToolSchema
