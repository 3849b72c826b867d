import ToolSchema.Proofs.Acceptance

/-!
# What comes of the parts of a value

A list that passes has what its items give, item by item. An object that passes has the declared
members first, in the order of their declarations, and behind them the undeclared members that are
kept. So what stands under a key of it is known: under a declared key what its field gives for the
value given there, or for a missing one, and under any other key what was given, if it is kept.
-/

namespace ToolSchema

theorem lookup_undeclared (key : String) (declared : List String) (members : List (String × Json)) :
    lookup key (undeclared declared members) =
      if key ∈ declared then none else lookup key members := by
  induction members with
  | nil => simp [undeclared]
  | cons pair rest ih =>
    obtain ⟨name, value⟩ := pair
    rw [Validator.undeclared_cons]
    by_cases hname : name ∈ declared
    · rw [if_pos hname, ih, lookup_cons]
      by_cases hkey : key ∈ declared
      · simp [hkey]
      · have hne : name ≠ key := fun heq ↦ hkey (heq ▸ hname)
        simp [hkey, hne]
    · rw [if_neg hname, lookup_cons, lookup_cons, ih]
      by_cases heq : name = key
      · simp [← heq, hname]
      · simp [heq]

theorem keys_undeclared (declared : List String) (members : List (String × Json)) :
    keys (undeclared declared members) =
      (keys members).filter fun key ↦ !declared.contains key := by
  simp [keys, undeclared, List.filter_map, Function.comp_def]

/-- A policy keeps members in their order, if it keeps any. -/
theorem UnknownKeys.sublist_kept (policy : UnknownKeys) (members : List (String × Json)) :
    (policy.kept members).Sublist members := by
  cases policy with
  | passthrough => exact .refl members
  | strip | reject => exact List.nil_sublist members

namespace Validator

/-- What comes out of a value that may be missing comes out of a value that is there. -/
theorem exists_judge_some {v : Validator} {value? : Option Json} {out : Json}
    (h : (v.judge value?).value? = some out) : ∃ value ∈ value?.or v.default,
      (v.judge (some value)).value? = some out := by
  cases value? with
  | some value => exact ⟨value, rfl, h⟩
  | none =>
    rw [judge_none] at h
    cases hdefault : v.default with
    | some default => exact ⟨default, rfl, by rwa [hdefault] at h⟩
    | none =>
      rw [hdefault] at h
      cases hoptional : v.optional <;> simp [hoptional] at h

/-! ## Items -/

theorem forall₂_of_mapM {α β : Type} {f : α → Option β} {as : List α} {bs : List β}
    (h : as.mapM f = some bs) : List.Forall₂ (fun a b ↦ f a = some b) as bs := by
  induction as generalizing bs with
  | nil =>
    obtain rfl := Option.some.inj h
    exact .nil
  | cons a rest ih =>
    rw [List.mapM_cons] at h
    obtain ⟨b, hb, h⟩ := Option.bind_eq_some_iff.mp h
    obtain ⟨others, hothers, h⟩ := Option.bind_eq_some_iff.mp h
    obtain rfl := Option.some.inj h
    exact .cons hb (ih hothers)

/-- What comes of a list comes of its items, one by one. -/
theorem exists_of_judgeKind_array {item : Validator} {value out : Json}
    (h : (judgeKind (.array item) value).value? = some out) :
    ∃ values outs, value = .array values ∧ out = .array outs ∧
      List.Forall₂ (fun given out ↦ (item.judge (some given)).value? = some out) values outs := by
  cases value with
  | array values =>
    rw [value?_judgeKind_array] at h
    obtain ⟨outs, houts, rfl⟩ := Option.map_eq_some_iff.mp h
    exact ⟨values, outs, rfl, rfl, forall₂_of_mapM houts⟩
  | _ => simp [judgeKind] at h

/-! ## Members -/

variable {fields : List (String × Validator)} {policy : UnknownKeys}

/-- The members that come of an object. -/
def membersOut (fields : List (String × Validator)) (policy : UnknownKeys)
    (members : List (String × Json)) : List (String × Json) :=
  Verdict.fieldMembers (judgeFields fields members) ++
    policy.kept (undeclared (keys fields) members)

theorem judgeKind_object (fields : List (String × Validator)) (policy : UnknownKeys)
    (members : List (String × Json)) :
    judgeKind (.object fields policy) (.object members) =
      .ofParts (Verdict.fieldIssues (judgeFields fields members) ++
          policy.issues (undeclared (keys fields) members))
        (.object (membersOut fields policy members)) := by
  rw [judgeKind]
  rfl

/-- Only of an object comes an object, and of each declared member without an issue. -/
theorem exists_of_judgeKind_object {value out : Json}
    (h : (judgeKind (.object fields policy) value).value? = some out) :
    ∃ members, value = .object members ∧ out = .object (membersOut fields policy members) ∧
      ∀ pair ∈ fields, (pair.2.judge (lookup pair.1 members)).issues = [] := by
  cases value with
  | object members =>
    rw [judgeKind_object, Verdict.value?_ofParts, Option.ite_none_right_eq_some,
      List.append_eq_nil_iff, judgeFields_eq_map] at h
    obtain ⟨⟨hissues, -⟩, hout⟩ := h
    refine ⟨members, rfl, (Option.some.inj hout).symm, fun pair hpair ↦ ?_⟩
    have hverdict := List.flatMap_eq_nil_iff.mp hissues _ (List.mem_map_of_mem hpair)
    exact Verdict.issuesAt_eq_nil_iff.mp hverdict
  | _ => simp [judgeKind] at h

/-- The declared members come in the order of their declarations. -/
theorem sublist_keys_fieldMembers (fields : List (String × Validator))
    (members : List (String × Json)) :
    (keys (Verdict.fieldMembers (judgeFields fields members))).Sublist (keys fields) := by
  induction fields with
  | nil => exact .refl _
  | cons pair rest ih =>
    obtain ⟨name, field⟩ := pair
    rw [judgeFields, Verdict.fieldMembers_cons, keys_append, keys_cons]
    cases (field.judge (lookup name members)).value? with
    | none => exact ih.cons name
    | some out => exact ih.cons_cons name

/-- Under a declared key stands what its field gives. -/
theorem lookup_fieldMembers (hdistinct : (keys fields).Nodup) (key : String)
    (members : List (String × Json)) :
    lookup key (Verdict.fieldMembers (judgeFields fields members)) =
      (lookup key fields).bind fun field ↦ (field.judge (lookup key members)).value? := by
  induction fields with
  | nil => rfl
  | cons pair rest ih =>
    obtain ⟨name, field⟩ := pair
    rw [keys_cons, List.nodup_cons] at hdistinct
    rw [judgeFields, Verdict.fieldMembers_cons, lookup_append, ih hdistinct.2, lookup_cons]
    by_cases hname : name = key
    · subst hname
      have hrest : lookup name rest = none := lookup_eq_none_iff.mpr hdistinct.1
      cases hvalue : (field.judge (lookup name members)).value? <;> simp [hrest, hvalue]
    · cases (field.judge (lookup name members)).value? <;> simp [hname]

theorem keys_kept_notMem (policy : UnknownKeys) (declared : List String)
    (members : List (String × Json)) :
    ∀ key ∈ keys (policy.kept (undeclared declared members)), key ∉ declared := by
  intro key hkey
  have hmem := ((policy.sublist_kept _).map Prod.fst).subset hkey
  rw [← keys, keys_undeclared, List.mem_filter] at hmem
  simpa using hmem.2

/-- What stands under a key of the object that comes out. -/
theorem lookup_membersOut (hdistinct : (keys fields).Nodup) (key : String)
    (members : List (String × Json)) :
    lookup key (membersOut fields policy members) =
      match lookup key fields with
      | some field => (field.judge (lookup key members)).value?
      | none => lookup key (policy.kept members) := by
  rw [membersOut, lookup_append, lookup_fieldMembers hdistinct]
  cases hfield : lookup key fields with
  | some field =>
    have hkey : key ∈ keys fields := by rw [← lookup_isSome_iff, hfield, Option.isSome_some]
    have hnone : lookup key (policy.kept (undeclared (keys fields) members)) = none := by
      rw [lookup_eq_none_iff]
      intro hkept
      exact keys_kept_notMem policy _ members key hkept hkey
    rw [hnone, Option.or_none, Option.bind_some]
  | none =>
    have hkey : key ∉ keys fields := lookup_eq_none_iff.mp hfield
    rw [Option.bind_none, Option.none_or]
    cases policy with
    | passthrough =>
      show lookup key (undeclared (keys fields) members) = lookup key members
      rw [lookup_undeclared, if_neg hkey]
    | strip | reject => rfl

/-- No key comes out twice. -/
theorem nodup_keys_membersOut (hdistinct : (keys fields).Nodup) (policy : UnknownKeys)
    {members : List (String × Json)} (hmembers : (keys members).Nodup) :
    (keys (membersOut fields policy members)).Nodup := by
  have hknown := sublist_keys_fieldMembers fields members
  have hkept : (keys (policy.kept (undeclared (keys fields) members))).Sublist (keys members) :=
    ((policy.sublist_kept _).trans List.filter_sublist).map Prod.fst
  rw [membersOut, keys_append, List.nodup_append]
  refine ⟨hknown.nodup hdistinct, hkept.nodup hmembers, ?_⟩
  rintro key hkey _ hother rfl
  exact keys_kept_notMem policy _ members key hother (hknown.subset hkey)

end Validator

end ToolSchema
