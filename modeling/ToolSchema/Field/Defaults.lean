import ToolSchema.Field
import ToolSchema.Json.Decode

/-!
# Text defaults

A default may be stored as text whatever the kind of its field. Resolving reads such a text as a
value of the kind: a number, a truth value, or a whole document for lists, objects and unions. A
text that cannot be read so is left as it is.
-/

namespace ToolSchema

/-- The value that a text stands for in a field of a kind. -/
def FieldKind.resolveText? (kind : FieldKind) (text : String) : Option Json :=
  match kind with
  | .number => ((Numeral.read? (Text.trim text)).bind Double.finite?).map fun x ↦
      .number (.literal x)
  | .boolean =>
    match Text.trim text with
    | "true" => some (.bool true)
    | "false" => some (.bool false)
    | _ => none
  | .array => (Json.parse (.ofString (Text.trim text))).toOption
  | .object => (Json.parse (.ofString (Text.trim text))).toOption
  | .union => (Json.parse (.ofString (Text.trim text))).toOption
  | _ => none

/-- The value that a default stands for in a field of a kind. -/
def FieldKind.resolveDefault (kind : FieldKind) (value : Json) : Json :=
  match value with
  | .string text => (kind.resolveText? text).getD value
  | _ => value

def Rules.resolveDefault (kind : FieldKind) (rules : Rules) : Rules :=
  { rules with default := rules.default.map kind.resolveDefault }

namespace Field

mutual
/-- The field with all its defaults resolved. -/
def resolveDefaults : Field → Field
  | ⟨name, kind, description, rules, members, children, calculation⟩ =>
    ⟨name, kind, description, rules.map (Rules.resolveDefault kind), members,
      (match children with
        | none => none
        | some fields => some (resolveAllDefaults fields)), calculation⟩

def resolveAllDefaults : List Field → List Field
  | [] => []
  | field :: rest => resolveDefaults field :: resolveAllDefaults rest
end

end Field

end ToolSchema
