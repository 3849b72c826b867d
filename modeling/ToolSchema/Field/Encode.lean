import ToolSchema.Field

/-!
# Encoding fields

Encoding writes the members that decoding reads, in their declared order, and leaves out those that
are absent. What is present but empty is written.
-/

namespace ToolSchema

namespace Json

/-- A member that is left out if it has no value. -/
def optional {α : Type} (key : String) (encode : α → Json) (value : Option α) :
    List (String × Json) :=
  value.toList.map fun v ↦ (key, encode v)

def ofLength (length : UInt64) : Json := .ofInt length.toNat

end Json

def Rules.toJson (rules : Rules) : Json :=
  .object <|
    Json.optional "required" Json.bool rules.required ++
    Json.optional "min" Json.ofDouble rules.min ++
    Json.optional "max" Json.ofDouble rules.max ++
    Json.optional "minLength" Json.ofLength rules.minLength ++
    Json.optional "maxLength" Json.ofLength rules.maxLength ++
    Json.optional "regex" Json.string rules.regex ++
    Json.optional "custom" Json.string rules.custom ++
    Json.optional "default" id rules.default

def Calculation.toJson (calculation : Calculation) : Json :=
  .object
    [("dependencies", .ofStrings calculation.dependencies),
     ("formula", .string calculation.formula)]

namespace Field

mutual
def toJson : Field → Json
  | ⟨name, kind, description, rules, members, children, calculation⟩ =>
    .object <|
      [("name", .string name), ("type", .string kind.name)] ++
      Json.optional "description" Json.string description ++
      Json.optional "validations" Rules.toJson rules ++
      Json.optional "enumValues" Json.ofStrings members ++
      (match children with
        | none => []
        | some fields => [("children", .array (listToJson fields))]) ++
      Json.optional "calculatedField" Calculation.toJson calculation

def listToJson : List Field → List Json
  | [] => []
  | field :: rest => toJson field :: listToJson rest
end

end Field

end ToolSchema
