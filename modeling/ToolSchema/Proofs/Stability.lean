import ToolSchema.Proofs.Conformance
import ToolSchema.Proofs.Defaults

/-!
# Validated values are final

What a validator gives is in its final form: numbers are numbers, missing members are filled in, the
declared members stand first and in the order of their declarations, and what is not declared has
been kept or dropped. Validated again, it is given back as it is. Unions and dates are left out: an
earlier alternative may accept what a later one gave, and the text of an instant is not always read
again.
-/

namespace ToolSchema

/-! ## Reading again -/

/-- A list that was read item by item is read again as it is, if its items are. -/
theorem mapM_of_mapM {α : Type} {f : α → Option α} (hagain : ∀ a b, f a = some b → f b = some b)
    {as bs : List α} (h : as.mapM f = some bs) : bs.mapM f = some bs := by
  have hself : ∀ b ∈ bs, f b = some b := by
    intro b hb
    obtain ⟨a, -, ha⟩ := Field.exists_of_mem_mapM h b hb
    exact hagain a b ha
  clear h
  induction bs with
  | nil => rfl
  | cons b rest ih =>
    rw [List.forall_mem_cons] at hself
    rw [List.mapM_cons, hself.1, ih hself.2]
    rfl

theorem readDeclared_congr {members others : List (String × Json)}
    {declared : List (String × MemberReading)}
    (h : ∀ pair ∈ declared, pair.2 (lookup pair.1 others) = pair.2 (lookup pair.1 members)) :
    readDeclared others declared = readDeclared members declared := by
  induction declared with
  | nil => rfl
  | cons pair rest ih =>
    rw [List.forall_mem_cons] at h
    rw [readDeclared, readDeclared, h.1, ih h.2]

/-- The members of an object are read if the declared ones are and no other is refused. -/
theorem readMembers_eq_some_iff {policy : UnknownKeys} {declared : List (String × MemberReading)}
    {members : List (String × Json)} {out : Json} :
    readMembers policy declared members = some out ↔
      policy.issues (undeclared (keys declared) members) = [] ∧
        ∃ known, readDeclared members declared = some known ∧
          out = .object (known ++ policy.kept (undeclared (keys declared) members)) := by
  unfold readMembers
  cases readDeclared members declared with
  | none => simp
  | some known =>
    have hcomm : ∀ found : Json, found = out ↔ out = found := fun _ ↦ eq_comm
    cases policy <;> simp [UnknownKeys.issues, UnknownKeys.kept, hcomm]

namespace UnknownKeys

variable (policy : UnknownKeys) (members : List (String × Json))

/-- Members that were kept are not reported. -/
theorem issues_kept : policy.issues (policy.kept members) = [] := by
  cases policy <;> rfl

theorem kept_kept : policy.kept (policy.kept members) = policy.kept members := by
  cases policy <;> rfl

theorem kept_subset : policy.kept members ⊆ members := by
  cases policy with
  | passthrough => exact List.Subset.refl members
  | strip | reject => exact List.nil_subset members

end UnknownKeys

/-- An object that was read is read again as it is, if its members are. The others that were kept
still come last, and are all there is besides the declared ones. -/
theorem readMembers_of_readMembers {policy : UnknownKeys}
    {declared : List (String × MemberReading)} (hdistinct : (keys declared).Nodup)
    (hagain : ∀ pair ∈ declared, ∀ value? out?, pair.2 value? = some out? →
      pair.2 out? = some out?)
    {members : List (String × Json)} {out : Json}
    (h : readMembers policy declared members = some out) :
    ∃ members, out = .object members ∧ readMembers policy declared members = some out := by
  obtain ⟨-, known, hknown, rfl⟩ := readMembers_eq_some_iff.mp h
  let kept := policy.kept (undeclared (keys declared) members)
  have hkept : ∀ pair ∈ kept, pair.1 ∉ keys declared := by
    intro pair hpair
    have hmem := policy.kept_subset _ hpair
    simpa using (List.mem_filter.mp hmem).2
  have hundeclared : undeclared (keys declared) (known ++ kept) = kept := by
    have hfront : undeclared (keys declared) known = [] := by
      rw [undeclared, List.filter_eq_nil_iff]
      intro pair hpair
      have hkey : pair.1 ∈ keys known := List.mem_map_of_mem hpair
      simpa using keys_subset_of_readDeclared hknown pair.1 hkey
    have hback : undeclared (keys declared) kept = kept := by
      rw [undeclared, List.filter_eq_self]
      intro pair hpair
      simpa using hkept pair hpair
    calc undeclared (keys declared) (known ++ kept)
        = undeclared (keys declared) known ++ undeclared (keys declared) kept :=
          List.filter_append ..
      _ = kept := by rw [hfront, hback, List.nil_append]
  have hlookup : ∀ pair ∈ declared, lookup pair.1 (known ++ kept) = lookup pair.1 known := by
    intro pair hpair
    have hnone : lookup pair.1 kept = none := by
      rw [lookup_eq_none_iff]
      intro hkey
      obtain ⟨other, hother, hname⟩ := List.mem_map.mp hkey
      apply hkept other hother
      rw [hname]
      exact List.mem_map_of_mem hpair
    rw [lookup_append, hnone, Option.or_none]
  have hdeclared : readDeclared (known ++ kept) declared = some known := by
    rw [← hknown]
    apply readDeclared_congr
    intro pair hpair
    have hread : pair.2 (lookup pair.1 members) = some (lookup pair.1 known) :=
      lookup_readDeclared hknown hdistinct hpair
    rw [hlookup pair hpair, hread]
    exact hagain pair hpair _ _ hread
  refine ⟨_, rfl, readMembers_eq_some_iff.mpr ?_⟩
  rw [hundeclared]
  exact ⟨policy.issues_kept _, known, hdeclared, by rw [policy.kept_kept]⟩

namespace Validator

/-- What a validator gives for a value that is there, it gives for itself. -/
def GivesBack (v : Validator) : Prop :=
  ∀ value out, (v.judge (some value)).value? = some out → (v.judge (some out)).value? = some out

variable {v : Validator}

/-- A member that was read is read again as it is: a value that was filled in is then there, and one
that may be missing is still missing. -/
theorem GivesBack.reading (h : v.GivesBack) {value? out? : Option Json}
    (hread : v.reading value? = some out?) : v.reading out? = some out? := by
  have hsome : ∀ value, v.reading (some value) = some out? → v.reading out? = some out? := by
    intro value hvalue
    rw [reading_some] at hvalue
    obtain ⟨out, hout, rfl⟩ := Option.map_eq_some_iff.mp hvalue
    rw [reading_some, h value out hout, Option.map_some]
  cases value? with
  | some value => exact hsome value hread
  | none =>
    cases hdefault : v.default with
    | some default =>
      rw [reading_none, hdefault] at hread
      exact hsome default hread
    | none =>
      have hnone : out? = none := by
        rw [reading_none, hdefault] at hread
        simpa using (Option.ite_none_right_eq_some.mp hread).2.symm
      rw [hnone] at hread ⊢
      exact hread

/-! ## Along the kinds -/

variable {value out : Json}

theorem value?_judgeKind_array_again {item : Validator} (hitem : item.GivesBack)
    (h : (judgeKind (.array item) value).value? = some out) :
    (judgeKind (.array item) out).value? = some out := by
  cases value with
  | array items =>
    rw [value?_judgeKind_array] at h
    obtain ⟨outs, houts, rfl⟩ := Option.map_eq_some_iff.mp h
    rw [value?_judgeKind_array, mapM_of_mapM hitem houts, Option.map_some]
  | _ => simp [judgeKind] at h

/-- Defaults have been filled in before, so that all members that came out are there. -/
theorem value?_judgeKind_object_again {fields : List (String × Validator)} {policy : UnknownKeys}
    (hdistinct : (keys fields).Nodup) (hfields : ∀ field ∈ fields.map Prod.snd, field.GivesBack)
    (h : (judgeKind (.object fields policy) value).value? = some out) :
    (judgeKind (.object fields policy) out).value? = some out := by
  cases value with
  | object members =>
    rw [value?_judgeKind_object] at h
    have hagain : ∀ pair ∈ fields.map (Prod.map id reading), ∀ value? out?,
        pair.2 value? = some out? → pair.2 out? = some out? := by
      rw [List.forall_mem_map]
      intro pair hpair value? out? hread
      exact (hfields pair.2 (List.mem_map_of_mem hpair)).reading hread
    obtain ⟨again, rfl, hout⟩ := readMembers_of_readMembers (by rwa [keys_map]) hagain h
    rw [value?_judgeKind_object]
    exact hout
  | _ => simp [judgeKind] at h

theorem value?_judgeKind_enumeration_again {members : List String}
    (h : (judgeKind (.enumeration members) value).value? = some out) :
    (judgeKind (.enumeration members) out).value? = some out := by
  cases value with
  | string text =>
    by_cases hmember : text ∈ members
    · have hpass : judgeKind (.enumeration members) (.string text) = .pass (.string text) := by
        simp [judgeKind, hmember]
      rw [hpass] at h
      obtain rfl := Option.some.inj h
      rw [hpass, Verdict.value?_pass]
    · simp [judgeKind, hmember] at h
  | _ => simp [judgeKind] at h

/-- What was coerced is a number now, and stands for itself. -/
theorem value?_judgeKind_number_again {coerce : Bool}
    (h : (judgeKind (.number coerce) value).value? = some out) :
    (judgeKind (.number coerce) out).value? = some out := by
  have hread : ∀ value : Json,
      (judgeKind (.number coerce) value).value? = value.coerceNumber? coerce := by
    intro value
    rw [judgeKind]
    cases value.coerceNumber? coerce <;> rfl
  rw [hread] at h
  obtain ⟨n, rfl⟩ := Field.exists_of_coerceNumber? h
  rw [hread, Json.coerceNumber?]

/-- Neither a union nor a date. -/
structure Settles (v : Validator) : Prop where
  union : ∀ first second, v.kind ≠ .union first second
  date : ∀ coerce, v.kind ≠ .date coerce

/-- A kind gives back what it gave, if the parts of the validator do. -/
theorem value?_judgeKind_again (hdistinct : v.FieldsDistinct) (hsettles : v.Settles)
    (ih : ∀ part ∈ v.parts, part.GivesBack) (h : (judgeKind v.kind value).value? = some out) :
    (judgeKind v.kind out).value? = some out := by
  unfold FieldsDistinct at hdistinct
  unfold parts at ih
  cases hkind : v.kind with
  | union first second => exact absurd hkind (hsettles.union first second)
  | date coerce => exact absurd hkind (hsettles.date coerce)
  | any => rfl
  | string =>
    rw [hkind] at h
    cases value with
    | string text =>
      obtain rfl := Option.some.inj h
      rfl
    | _ => simp [judgeKind] at h
  | boolean =>
    rw [hkind] at h
    cases value with
    | bool truth =>
      obtain rfl := Option.some.inj h
      rfl
    | _ => simp [judgeKind] at h
  | number coerce => exact value?_judgeKind_number_again (hkind ▸ h)
  | enumeration members => exact value?_judgeKind_enumeration_again (hkind ▸ h)
  | array item =>
    simp only [hkind, List.forall_mem_singleton] at ih
    exact value?_judgeKind_array_again ih (hkind ▸ h)
  | object fields policy =>
    simp only [hkind] at ih
    exact value?_judgeKind_object_again (hdistinct fields policy hkind) ih (hkind ▸ h)

/-- Where there are no unions and no dates, what comes out is given back as it is. -/
theorem givesBack_of_everywhere
    (h : v.Everywhere fun node ↦ node.FieldsDistinct ∧ node.Settles) : v.GivesBack := by
  induction h with
  | @intro v here _ ih =>
    intro value out hout
    rw [value?_judge_some_eq_some_iff] at hout ⊢
    exact ⟨value?_judgeKind_again here.1 here.2 ih hout.1, hout.2⟩

/-- Validated output is stable. A validator without unions and dates, whether it was built by hand,
from tables of fields, or compiled, gives back what it has given: with the same members in the same
order, nothing coerced, filled in or dropped a second time, and no objection. -/
theorem validate_again
    (hbuilt : v.Everywhere FieldsDistinct ∨ ∃ (compiler : Compiler) (shape : Shape) (field : Field),
      (compiler.compileShaped shape field).outcome = .ok v)
    (hsettles : v.Everywhere Settles) (h : v.validate value = .ok out) :
    v.validate out = .ok out := by
  have hdistinct : v.Everywhere FieldsDistinct := by
    rcases hbuilt with hdistinct | ⟨compiler, shape, field, hcompiled⟩
    · exact hdistinct
    · rw [Compiler.eq_of_yields_compileShaped hcompiled]
      exact field.everywhere_fieldsDistinct_validator _
  rw [validate_eq_ok_iff] at h ⊢
  exact givesBack_of_everywhere (hdistinct.and hsettles) value out h

/-- A stock item, built by hand: the count is by default a text, and what is not declared is
dropped. -/
def stockItem : Validator :=
  (object [
    ("label", (string.check (.minLength 2)).refine "trimmed" Predicate.trimmed),
    ("count", ((number true).check (.min (.finite (.ofInt 1)))).withDefault (.string " 7 ")),
    ("sizes", array (number true)),
    ("note", any.makeOptional)]).withUnknownKeys .strip

theorem everywhere_stockItem :
    stockItem.Everywhere fun node ↦ node.FieldsDistinct ∧ node.Settles := by
  have hleaf : ∀ v : Validator, v.parts = [] → (∀ fields policy, v.kind ≠ .object fields policy) →
      (∀ first second, v.kind ≠ .union first second) → (∀ coerce, v.kind ≠ .date coerce) →
        v.Everywhere fun node ↦ node.FieldsDistinct ∧ node.Settles := by
    intro v hparts hobject hunion hdate
    have hdistinct : v.FieldsDistinct := fun fields policy heq ↦ absurd heq (hobject fields policy)
    exact .of_parts_eq_nil ⟨hdistinct, hunion, hdate⟩ hparts
  have hdistinct : stockItem.FieldsDistinct := by
    intro fields policy heq
    obtain ⟨rfl, -⟩ := ValidatorKind.object.inj heq
    exact nodup_keys_collect _
  have hsizes : (array (number true)).Everywhere fun node ↦ node.FieldsDistinct ∧ node.Settles := by
    refine ⟨⟨by simp [FieldsDistinct, array], by simp [array], by simp [array]⟩, ?_⟩
    exact List.forall_mem_singleton.mpr (hleaf _ rfl (by simp [number]) (by simp [number])
      (by simp [number]))
  have hparts : stockItem.parts =
      [(string.check (.minLength 2)).refine "trimmed" Predicate.trimmed,
        ((number true).check (.min (.finite (.ofInt 1)))).withDefault (.string " 7 "),
        array (number true), any.makeOptional] := rfl
  refine ⟨⟨hdistinct, by simp [stockItem, object, withUnknownKeys],
    by simp [stockItem, object, withUnknownKeys]⟩, ?_⟩
  rw [hparts]
  simp only [List.forall_mem_cons]
  refine ⟨?_, ?_, hsizes, ?_, List.forall_mem_nil _⟩
  · apply hleaf _ rfl <;> simp [string, check, Validator.refine]
  · apply hleaf _ rfl <;> simp [number, check, withDefault]
  · apply hleaf _ rfl <;> simp [any, makeOptional]

/-- The count is filled in and the sizes are coerced once; the second time nothing changes. -/
theorem validate_stockItem_again :
    let given : Json := .object [("sizes", .array [.string "1", .ofInt 2]), ("extra", .null),
      ("label", .string "tea")]
    let out : Json := .object [("label", .string "tea"), ("count", .ofInt 7),
      ("sizes", .array [.ofInt 1, .ofInt 2])]
    stockItem.validate given = .ok out ∧ stockItem.validate out = .ok out := by
  intro given out
  have h : stockItem.validate given = .ok out := by cbv
  have hdistinct : stockItem.Everywhere FieldsDistinct := everywhere_stockItem.imp fun _ h ↦ h.1
  have hsettles : stockItem.Everywhere Settles := everywhere_stockItem.imp fun _ h ↦ h.2
  exact ⟨h, validate_again (.inl hdistinct) hsettles h⟩

end Validator

end ToolSchema
