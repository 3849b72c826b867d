import ToolSchema.Declaration
import ToolSchema.Proofs.Assembly

/-!
# Trees of fields

What holds of a field whenever it holds of all its children holds of every field. What is computed
from a list of fields one by one is the list of what is computed from each.
-/

namespace ToolSchema

namespace Field

mutual
/-- Induction on a field: its children are given, whatever its kind makes of them. -/
theorem childrenInduction {motive : Field → Prop}
    (step : ∀ field : Field, (∀ child ∈ field.children.getD [], motive child) → motive field) :
    (field : Field) → motive field
  | ⟨_, _, _, _, _, some children, _⟩ => step _ (childrenInduction_forall step children)
  | ⟨_, _, _, _, _, none, _⟩ => step _ (by simp)

/-- Induction on all fields of a list. -/
theorem childrenInduction_forall {motive : Field → Prop}
    (step : ∀ field : Field, (∀ child ∈ field.children.getD [], motive child) → motive field) :
    (fields : List Field) → ∀ child ∈ fields, motive child
  | [] => by simp
  | field :: rest =>
    List.forall_mem_cons.mpr
      ⟨childrenInduction step field, childrenInduction_forall step rest⟩
end

/-- The children that count on the kind of a field. -/
def parts (field : Field) : List Field :=
  match field.kind, field.children with
  | .array, some (item :: _) => [item]
  | .object, some fields => fields
  | .union, some (first :: second :: _) => [first, second]
  | _, _ => []

/-- Children may count for nothing, but whatever counts is a child. -/
theorem mem_children_of_mem_parts {field part : Field} (h : part ∈ field.parts) :
    part ∈ field.children.getD [] := by
  unfold parts at h
  split at h
  · next hchildren =>
    rw [hchildren, List.mem_singleton.mp h]
    exact List.mem_cons_self
  · next hchildren =>
    rw [hchildren]
    exact h
  · next first second rest _ hchildren =>
    have hprefix : [first, second] ⊆ first :: second :: rest :=
      (List.prefix_append [first, second] rest).subset
    rw [hchildren]
    exact hprefix h
  · cases h

section Parts

variable {field item first second : Field} {children rest : List Field}

theorem item_mem_parts (hkind : field.kind = .array)
    (hchildren : field.children = some (item :: rest)) : item ∈ field.parts := by
  simp [parts, hkind, hchildren]

theorem parts_of_object (hkind : field.kind = .object) : field.parts = field.children.getD [] := by
  unfold parts
  rw [hkind]
  cases field.children <;> rfl

theorem child_mem_parts (hkind : field.kind = .object)
    (hchildren : field.children = some children) : ∀ child ∈ children, child ∈ field.parts := by
  rw [parts_of_object hkind, hchildren, Option.getD_some]
  exact fun child hchild ↦ hchild

theorem first_mem_parts (hkind : field.kind = .union)
    (hchildren : field.children = some (first :: second :: rest)) : first ∈ field.parts := by
  simp [parts, hkind, hchildren]

theorem second_mem_parts (hkind : field.kind = .union)
    (hchildren : field.children = some (first :: second :: rest)) : second ∈ field.parts := by
  simp [parts, hkind, hchildren]

end Parts

/-- Induction on a field over the children that count. -/
theorem partsInduction {motive : Field → Prop}
    (step : ∀ field : Field, (∀ part ∈ field.parts, motive part) → motive field) (field : Field) :
    motive field :=
  childrenInduction
    (fun field ih ↦ step field fun part hpart ↦ ih part (mem_children_of_mem_parts hpart)) field

/-- What holds of a field and of its parts at every depth. -/
inductive Everywhere (holds : Field → Prop) : Field → Prop
  | intro {field : Field} (here : holds field)
      (parts : ∀ part ∈ field.parts, Everywhere holds part) : Everywhere holds field

namespace Everywhere

variable {holds other : Field → Prop} {field : Field}

theorem here : field.Everywhere holds → holds field
  | ⟨here, _⟩ => here

theorem part : field.Everywhere holds → ∀ part ∈ field.parts, part.Everywhere holds
  | ⟨_, parts⟩ => parts

theorem of_parts_eq_nil (here : holds field) (hparts : field.parts = []) : field.Everywhere holds :=
  ⟨here, by simp [hparts]⟩

theorem of_forall (h : ∀ field, holds field) (field : Field) : field.Everywhere holds := by
  induction field using partsInduction with
  | step field ih => exact ⟨h field, ih⟩

theorem and (h : field.Everywhere holds) (hother : field.Everywhere other) :
    field.Everywhere fun f ↦ holds f ∧ other f := by
  induction h with
  | intro here _ ih =>
    exact ⟨⟨here, hother.here⟩, fun part hpart ↦ ih part hpart (hother.part part hpart)⟩

theorem imp (h : field.Everywhere holds) (himp : ∀ f, holds f → other f) :
    field.Everywhere other := by
  induction h with
  | intro here _ ih => exact ⟨himp _ here, ih⟩

end Everywhere

/-- What holds of a field and of all its children at every depth. -/
inductive Throughout (holds : Field → Prop) : Field → Prop
  | intro {field : Field} (here : holds field)
      (children : ∀ child ∈ field.children.getD [], Throughout holds child) :
      Throughout holds field

namespace Throughout

variable {holds other : Field → Prop} {field : Field}

theorem here : field.Throughout holds → holds field
  | ⟨here, _⟩ => here

theorem child : field.Throughout holds → ∀ child ∈ field.children.getD [], child.Throughout holds
  | ⟨_, children⟩ => children

theorem imp (h : field.Throughout holds) (himp : ∀ f, holds f → other f) :
    field.Throughout other := by
  induction h with
  | intro here _ ih => exact ⟨himp _ here, ih⟩

end Throughout

/-- Of the children of an object, no two have one name. -/
def NamesDistinct (field : Field) : Prop :=
  field.kind = .object → ((field.children.getD []).map Field.name).Nodup

instance (field : Field) : Decidable field.NamesDistinct :=
  inferInstanceAs (Decidable (field.kind = .object → _))

def BoundsFinite (field : Field) : Prop :=
  (∀ bound ∈ (field.rules.getD {}).min, bound.finite?.isSome) ∧
    ∀ bound ∈ (field.rules.getD {}).max, bound.finite?.isSome

def named {α : Type} (value : Field → α) (fields : List Field) : List (String × α) :=
  fields.map fun field ↦ (field.name, value field)

theorem validators_eq_named (s : Setting) (fields : List Field) :
    validators s fields = named (validator s) fields := by
  induction fields with
  | nil => rw [validators, named, List.map_nil]
  | cons field rest ih => rw [validators, ih, named, named, List.map_cons]

theorem jsonSchemas_eq_named (fields : List Field) :
    jsonSchemas fields = named jsonSchema fields := by
  induction fields with
  | nil => rw [jsonSchemas, named, List.map_nil]
  | cons field rest ih => rw [jsonSchemas, ih, named, named, List.map_cons]

theorem keys_named {α : Type} (value : Field → α) (fields : List Field) :
    keys (named value fields) = fields.map Field.name := by
  simp [keys, named]

theorem named_map {α β : Type} (change : α → β) (value : Field → α) (fields : List Field) :
    (named value fields).map (Prod.map id change) =
      named (fun field ↦ change (value field)) fields := by
  simp [named]

/-! ## Changing rules -/

mutual
/-- The field with its rules changed at every depth, according to their kinds. -/
def mapRules (change : FieldKind → Rules → Rules) : Field → Field
  | ⟨name, kind, description, rules, members, children, calculation⟩ =>
    ⟨name, kind, description, rules.map (change kind), members,
      (match children with
        | none => none
        | some fields => some (mapAllRules change fields)), calculation⟩

def mapAllRules (change : FieldKind → Rules → Rules) : List Field → List Field
  | [] => []
  | field :: rest => mapRules change field :: mapAllRules change rest
end

variable {change : FieldKind → Rules → Rules}

theorem mapAllRules_eq_map (fields : List Field) :
    mapAllRules change fields = fields.map (mapRules change) := by
  induction fields with
  | nil => rw [mapAllRules, List.map_nil]
  | cons field rest ih => rw [mapAllRules, ih, List.map_cons]

theorem mapRules_eq (field : Field) :
    field.mapRules change =
      { field with
        rules := field.rules.map (change field.kind)
        children := field.children.map fun children ↦ children.map (mapRules change) } := by
  obtain ⟨name, kind, description, rules, members, children, calculation⟩ := field
  cases children with
  | none => rw [mapRules, Option.map_none]
  | some children => rw [mapRules, Option.map_some, mapAllRules_eq_map]

theorem mapRules_mapRules (other : FieldKind → Rules → Rules) (field : Field) :
    (field.mapRules change).mapRules other =
      field.mapRules fun kind rules ↦ other kind (change kind rules) := by
  induction field using childrenInduction with
  | step field ih =>
    let both (kind : FieldKind) (rules : Rules) := other kind (change kind rules)
    have hchildren : (field.children.map (List.map (mapRules change))).map
        (List.map (mapRules other)) = field.children.map (List.map (mapRules both)) := by
      rw [Option.map_map]
      apply Option.map_congr
      intro children hmem
      rw [Function.comp_apply, List.map_map]
      apply List.map_congr_left
      intro child hchild
      exact ih child (by rwa [hmem])
    rw [mapRules_eq, mapRules_eq field, mapRules_eq field]
    simp only [hchildren, Option.map_map, Function.comp_def, both]

theorem Throughout.mapRules {holds other : Field → Prop} {field : Field}
    (h : field.Throughout holds)
    (hchange : ∀ (f : Field) (children : Option (List Field)), holds f →
      other { f with rules := f.rules.map (change f.kind), children := children }) :
    (field.mapRules change).Throughout other := by
  induction h with
  | @intro field here _ ih =>
    rw [mapRules_eq]
    refine ⟨hchange field _ here, fun child hchild ↦ ?_⟩
    cases hmem : field.children with
    | none => simp [hmem] at hchild
    | some children =>
      simp only [hmem, Option.map_some, Option.getD_some, List.mem_map] at hchild
      obtain ⟨original, horiginal, rfl⟩ := hchild
      exact ih original (by rwa [hmem])

theorem parts_mapRules (field : Field) :
    (field.mapRules change).parts = field.parts.map (mapRules change) := by
  rw [mapRules_eq, parts, parts]
  cases field.kind with
  | array | object => rcases field.children with _ | (_ | ⟨first, rest⟩) <;> rfl
  | union => rcases field.children with _ | (_ | ⟨first, _ | ⟨second, rest⟩⟩) <;> rfl
  | _ => rfl

theorem Everywhere.mapRules {holds other : Field → Prop} {field : Field}
    (h : field.Everywhere holds)
    (hchange : ∀ f : Field, holds f → other (f.mapRules change)) :
    (field.mapRules change).Everywhere other := by
  induction h with
  | @intro field here _ ih =>
    refine ⟨hchange field here, fun part hpart ↦ ?_⟩
    rw [parts_mapRules] at hpart
    obtain ⟨original, horiginal, rfl⟩ := List.mem_map.mp hpart
    exact ih original horiginal

/-- A field is unchanged if all its rules are. -/
theorem mapRules_eq_self {field : Field}
    (h : field.Throughout fun f ↦ ∀ rules ∈ f.rules, change f.kind rules = rules) :
    field.mapRules change = field := by
  induction h with
  | @intro field here _ ih =>
    have hrules : field.rules.map (change field.kind) = field.rules := by
      cases hmem : field.rules with
      | none => rfl
      | some rules => exact congrArg some (here rules hmem)
    have hchildren : field.children.map (List.map (mapRules change)) = field.children := by
      cases hmem : field.children with
      | none => rfl
      | some children =>
        have hself : ∀ child ∈ children, child.mapRules change = id child := by
          intro child hchild
          exact ih child (by rwa [hmem])
        rw [Option.map_some, List.map_congr_left hself, List.map_id]
    rw [mapRules_eq, hrules, hchildren]
    cases field
    rfl

end Field

end ToolSchema
