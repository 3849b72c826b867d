import ToolSchema.Flat
import ToolSchema.Field.Encode

/-!
# Encoding flat parameter maps

The description and the required flag of a parameter are always written, its other members only if
they are present.
-/

namespace ToolSchema

def FlatRules.toJson (rules : FlatRules) : Json :=
  .object <|
    Json.optional "min" Json.ofDouble rules.min ++
    Json.optional "max" Json.ofDouble rules.max ++
    Json.optional "minLength" Json.ofLength rules.minLength ++
    Json.optional "maxLength" Json.ofLength rules.maxLength ++
    Json.optional "pattern" Json.string rules.pattern

namespace FlatParameter

mutual
def toJson : FlatParameter → Json
  | ⟨type, description, required, members, properties, items, rules⟩ =>
    .object <|
      [("type", .string type), ("description", .string description),
       ("required", .bool required)] ++
      Json.optional "enum" Json.ofStrings members ++
      (match properties with
        | none => []
        | some properties => [("properties", .object (pairsToJson properties))]) ++
      (match items with
        | none => []
        | some item => [("items", toJson item)]) ++
      Json.optional "validation" FlatRules.toJson rules

def pairsToJson : List (String × FlatParameter) → List (String × Json)
  | [] => []
  | (name, parameter) :: rest => (name, toJson parameter) :: pairsToJson rest
end

end FlatParameter

def FlatParameters.toJson (parameters : FlatParameters) : Json :=
  .object
    [("type", .string "object"),
     ("properties", .object (FlatParameter.pairsToJson parameters.properties))]

end ToolSchema
