import ToolSchema.Introspect
import ToolSchema.Proofs.Table

/-!
# Trees of validators

A validator has parts: the validators of items, of fields or of alternatives. The field that it
stands for is put together from its kind, its checks, and the fields that the parts stand for;
alternatives stand for none.
-/

namespace ToolSchema

namespace Rules

/-- The rules, unless they say nothing. -/
def unlessEmpty (rules : Rules) : Option Rules := if rules.isEmpty then none else some rules

theorem eq_of_isEmpty {rules : Rules} (h : rules.isEmpty) : rules = {} := by
  simp only [isEmpty, Bool.and_eq_true, Option.isNone_iff_eq_none] at h
  obtain ⟨⟨⟨⟨⟨⟨⟨hrequired, hmin⟩, hmax⟩, hminLength⟩, hmaxLength⟩, hregex⟩, hcustom⟩, hdefault⟩ := h
  cases rules
  simp_all

@[simp]
theorem getD_unlessEmpty (rules : Rules) : rules.unlessEmpty.getD {} = rules := by
  unfold unlessEmpty
  split
  · next h => exact (eq_of_isEmpty h).symm
  · rfl

end Rules

namespace Validator

/-- The validators that a validator is made of. -/
def parts (v : Validator) : List Validator :=
  match v.kind with
  | .array item => [item]
  | .object fields _ => fields.map Prod.snd
  | .union first second => [first, second]
  | _ => []

mutual
/-- Induction on a validator over its parts. -/
theorem partsInduction {motive : Validator → Prop}
    (step : ∀ v : Validator, (∀ part ∈ v.parts, motive part) → motive v) :
    (v : Validator) → motive v
  | ⟨.array item, _, _, _, _, _⟩ =>
    step _ (List.forall_mem_singleton.mpr (partsInduction step item))
  | ⟨.object fields _, _, _, _, _, _⟩ => step _ (partsInduction_forall step fields)
  | ⟨.union first second, _, _, _, _, _⟩ =>
    step _ (List.forall_mem_cons.mpr
      ⟨partsInduction step first, List.forall_mem_singleton.mpr (partsInduction step second)⟩)
  | ⟨.any, _, _, _, _, _⟩ | ⟨.string, _, _, _, _, _⟩ | ⟨.number _, _, _, _, _, _⟩
  | ⟨.boolean, _, _, _, _, _⟩ | ⟨.date _, _, _, _, _, _⟩ | ⟨.enumeration _, _, _, _, _, _⟩ =>
    step _ (List.forall_mem_nil _)

/-- Induction on the validators of all fields of a list. -/
theorem partsInduction_forall {motive : Validator → Prop}
    (step : ∀ v : Validator, (∀ part ∈ v.parts, motive part) → motive v) :
    (fields : List (String × Validator)) → ∀ part ∈ fields.map Prod.snd, motive part
  | [] => List.forall_mem_nil _
  | (_, v) :: rest =>
    List.forall_mem_cons.mpr ⟨partsInduction step v, partsInduction_forall step rest⟩
end

/-- What holds of a validator and of its parts at every depth. -/
inductive Everywhere (holds : Validator → Prop) : Validator → Prop
  | intro {v : Validator} (here : holds v) (parts : ∀ part ∈ v.parts, Everywhere holds part) :
      Everywhere holds v

namespace Everywhere

variable {holds other : Validator → Prop} {v : Validator}

theorem of_parts_eq_nil (here : holds v) (hparts : v.parts = []) : v.Everywhere holds :=
  ⟨here, by simp [hparts]⟩

theorem here : v.Everywhere holds → holds v
  | ⟨here, _⟩ => here

theorem part : v.Everywhere holds → ∀ part ∈ v.parts, part.Everywhere holds
  | ⟨_, parts⟩ => parts

theorem and (h : v.Everywhere holds) (hother : v.Everywhere other) :
    v.Everywhere fun node ↦ holds node ∧ other node := by
  induction h with
  | intro here _ ih =>
    exact ⟨⟨here, hother.here⟩, fun part hpart ↦ ih part hpart (hother.part part hpart)⟩

theorem imp (h : v.Everywhere holds) (himp : ∀ node, holds node → other node) :
    v.Everywhere other := by
  induction h with
  | intro here _ ih => exact ⟨himp _ here, ih⟩

/-- What holds everywhere below a validator holds everywhere below each of its nodes. -/
theorem nested (h : v.Everywhere holds) : v.Everywhere fun node ↦ node.Everywhere holds := by
  induction h with
  | intro here parts ih => exact ⟨⟨here, parts⟩, ih⟩

end Everywhere

end Validator

/-! ## The field that a validator stands for -/

namespace ValidatorKind

def fieldKind : ValidatorKind Validator → FieldKind
  | object _ _ => .object
  | array _ => .array
  | enumeration _ => .enumeration
  | number _ => .number
  | boolean => .boolean
  | date _ => .date
  | string | any | union _ _ => .string

def fieldMembers : ValidatorKind Validator → Option (List String)
  | enumeration members => some members
  | _ => none

def fieldChildren : ValidatorKind Validator → Option (List Field)
  | object fields _ => some (fields.map fun pair ↦ pair.2.toField pair.1)
  | array item => some [item.toField Validator.itemName]
  | _ => none

end ValidatorKind

namespace Validator

def fieldRules (v : Validator) : Rules := rulesOf v.kind.fieldKind v.acceptsMissing v.checks

theorem toFields_eq_map (fields : List (String × Validator)) :
    toFields fields = fields.map fun pair ↦ pair.2.toField pair.1 := by
  induction fields with
  | nil => rw [toFields, List.map_nil]
  | cons pair rest ih => rw [toFields, ih, List.map_cons]

theorem toField_eq (name : String) (v : Validator) :
    v.toField name =
      { name := name
        kind := v.kind.fieldKind
        description := v.description
        rules := v.fieldRules.unlessEmpty
        members := v.kind.fieldMembers
        children := v.kind.fieldChildren } := by
  obtain ⟨kind, optional, checks, refinements, default, description⟩ := v
  rw [toField.eq_def]
  cases kind with
  | object fields policy =>
    simp only [toFields_eq_map]
    rfl
  | _ => rfl

end Validator

end ToolSchema
