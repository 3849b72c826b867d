import ToolSchema.Field
import ToolSchema.Field.Encode

/-!
# Declarations of functions

A field is declared to callers as a JSON Schema, and a tool as a function whose parameters have such
a schema. Kinds that have no counterpart there become the empty schema, which accepts everything. A
child is required if it must not be missing and has no default.
-/

namespace ToolSchema

namespace Field

/-- Whether a child must be given by callers. -/
def mustBeGiven (field : Field) : Bool := field.isRequired && field.default?.isNone

/-- The names that callers must give, as a member of a schema; none is no member. -/
def requiredNames (children : List Field) : List (String × Json) :=
  match (children.filter mustBeGiven).map Field.name with
  | [] => []
  | names => [("required", .ofStrings names)]

def stringConstraints (rules : Option Rules) : List (String × Json) :=
  match rules with
  | none => []
  | some rules =>
    Json.optional "minLength" Json.ofLength rules.minLength ++
    Json.optional "maxLength" Json.ofLength rules.maxLength ++
    Json.optional "pattern" Json.string rules.pattern?

def numberConstraints (rules : Option Rules) : List (String × Json) :=
  match rules with
  | none => []
  | some rules =>
    Json.optional "minimum" Json.ofDouble rules.min ++
    Json.optional "maximum" Json.ofDouble rules.max

def typeMember (name : String) : String × Json := ("type", .string name)

mutual
def jsonSchema : Field → Json
  | ⟨_, kind, description, rules, members, children, _⟩ =>
    let base : List (String × Json) :=
      match kind with
      | .string => typeMember "string" :: stringConstraints rules
      | .number => typeMember "number" :: numberConstraints rules
      | .boolean => [typeMember "boolean"]
      | .date => [typeMember "string", ("format", .string "date-time")]
      | .enumeration =>
        typeMember "string" ::
          Json.optional "enum" Json.ofStrings (members.filter fun ms ↦ !ms.isEmpty)
      | .array =>
        typeMember "array" ::
          (match children with
            | some (item :: _) => [("items", jsonSchema item)]
            | _ => [])
      | .object =>
        typeMember "object" ::
          (match children with
            | some children =>
              ("properties", .object (collect (jsonSchemas children))) :: requiredNames children
            | none => [("properties", .object [])])
      | .union =>
        (match children with
          | some (first :: second :: _) =>
            [("anyOf", .array [jsonSchema first, jsonSchema second])]
          | _ => [])
      | .file => []
      | .calculated => []
      | .unsupported => []
    .object <|
      base ++
      Json.optional "description" Json.string description ++
      Json.optional "default" id (rules.bind Rules.default)

def jsonSchemas : List Field → List (String × Json)
  | [] => []
  | field :: rest => (field.name, jsonSchema field) :: jsonSchemas rest
end

/-- The declaration of a function whose parameters a field describes. -/
def functionDefinition (name description : String) (parameters : Field) : Json :=
  .object
    [("name", .string name), ("description", .string description),
     ("parameters", parameters.jsonSchema)]

end Field

end ToolSchema
