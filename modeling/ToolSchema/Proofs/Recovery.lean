import ToolSchema.Proofs.Acceptance
import ToolSchema.Proofs.ValidatorTree

/-!
# What is read back of a field

A field that is read back from its validator keeps what the validator shows. Kinds that validators
do not tell apart come back as strings, constraints come back on the kind that they count on, and
what may be missing is not required. Custom checks, defaults and calculations are lost. This is said
here along the tree of fields, without validators.
-/

namespace ToolSchema

namespace Rules

/-- The constraints that count on a kind. -/
def counting (kind : FieldKind) (rules : Rules) : Rules :=
  match kind with
  | .number => { min := rules.min, max := rules.max }
  | .string =>
    { minLength := rules.minLength, maxLength := rules.maxLength, regex := rules.pattern? }
  | _ => {}

/-- The rules that are read back on a kind. -/
def recovered (kind : FieldKind) (mayBeMissing : Bool) (rules : Rules) : Rules :=
  { rules.counting kind with required := if mayBeMissing then some false else none }

end Rules

/-- The kind that is read back of a kind with members. -/
def FieldKind.recovered (kind : FieldKind) (members? : Option (List String)) : FieldKind :=
  match kind with
  | .enumeration => if members?.isSome then .enumeration else .string
  | .union | .file | .calculated | .unsupported => .string
  | kind => kind

namespace Field

/-- Whether a member may be missing: it is not required, or its default is read. -/
def mayBeMissing (s : Setting) (field : Field) : Bool :=
  !field.isRequired || (field.default?.bind (field.read s)).isSome

mutual
/-- The field that is read back of a field, under a name. -/
def recovered (s : Setting) (name : String) : Field → Field
  | ⟨ownName, kind, description, rules, members, children, calculation⟩ =>
    let field : Field := ⟨ownName, kind, description, rules, members, children, calculation⟩
    { name := name
      kind := kind.recovered field.members?
      description := description
      rules := ((rules.getD {}).recovered kind (field.mayBeMissing s)).unlessEmpty
      members := if kind = .enumeration then field.members? else none
      children :=
        match kind, children with
        | .array, some (item :: _) => some [recovered s Validator.itemName item]
        | .array, _ => some [{ name := Validator.itemName, kind := .string }]
        | .object, some fields => some ((lastUnderEach (recoveredFields s fields)).map Prod.snd)
        | .object, none => some []
        | _, _ => none }

def recoveredFields (s : Setting) : List Field → List (String × Field)
  | [] => []
  | field :: rest => (field.name, recovered s field.name field) :: recoveredFields s rest
end

theorem recoveredFields_eq_named (s : Setting) (fields : List Field) :
    recoveredFields s fields = named (fun field ↦ field.recovered s field.name) fields := by
  induction fields with
  | nil => rw [recoveredFields, named, List.map_nil]
  | cons field rest ih => rw [recoveredFields, ih, named, named, List.map_cons]

def recoveredChildren (s : Setting) (field : Field) : Option (List Field) :=
  match field.kind, field.children with
  | .array, some (item :: _) => some [item.recovered s Validator.itemName]
  | .array, _ => some [{ name := Validator.itemName, kind := .string }]
  | .object, some fields =>
    some ((lastUnderEach (named (fun child ↦ child.recovered s child.name) fields)).map Prod.snd)
  | .object, none => some []
  | _, _ => none

theorem recovered_eq (s : Setting) (name : String) (field : Field) :
    field.recovered s name =
      { name := name
        kind := field.kind.recovered field.members?
        description := field.description
        rules := ((field.rules.getD {}).recovered field.kind (field.mayBeMissing s)).unlessEmpty
        members := if field.kind = .enumeration then field.members? else none
        children := field.recoveredChildren s } := by
  obtain ⟨ownName, kind, description, rules, members, children, calculation⟩ := field
  rw [recovered.eq_def, recoveredChildren]
  simp only [recoveredFields_eq_named]

end Field

end ToolSchema
