import ToolSchema.Field

/-!
# Flat parameter maps

A flat map describes the parameters of a tool by name, with a few types, an email and a url type
among them. Parameters are optional unless they say otherwise. A flat map has no meaning of its
own: it is lowered into a field, an object whose children are the parameters in map order.
-/

namespace ToolSchema

structure FlatRules where
  min : Option Double := none
  max : Option Double := none
  minLength : Option UInt64 := none
  maxLength : Option UInt64 := none
  pattern : Option String := none

/-- A flat parameter. `properties` counts on objects, `items` on lists, and `members` on whatever
is a string in the end. -/
structure FlatParameter where
  type : String
  description : String := ""
  required : Bool := false
  members : Option (List String) := none
  properties : Option (List (String × FlatParameter)) := none
  items : Option FlatParameter := none
  rules : Option FlatRules := none

/-- A flat parameter map. The names are distinct and in order. -/
structure FlatParameters where
  properties : List (String × FlatParameter) := []

namespace FlatParameters

def insert (parameters : FlatParameters) (name : String) (parameter : FlatParameter) :
    FlatParameters :=
  ⟨ToolSchema.insert name parameter parameters.properties⟩

end FlatParameters

namespace FlatParameter

def emailPattern : String := "^[^@\\s]+@[^@\\s]+\\.[^@\\s]+$"

def urlPattern : String := "^[A-Za-z][A-Za-z0-9+.-]*://\\S+$"

/-- The kind of a type, before its members are looked at. -/
def baseKind (type : String) : FieldKind :=
  match type with
  | "number" => .number
  | "boolean" => .boolean
  | "date" => .date
  | "array" => .array
  | "object" => .object
  | _ => .string

/-- The pattern that a type brings along. -/
def typePattern? (type : String) : Option String :=
  match type with
  | "email" => some emailPattern
  | "url" => some urlPattern
  | _ => none

def members? (parameter : FlatParameter) : Option (List String) :=
  parameter.members.filter fun ms ↦ !ms.isEmpty

/-- The kind that a parameter is lowered to: a string with members is an enumeration. -/
def kind (parameter : FlatParameter) : FieldKind :=
  match baseKind parameter.type, parameter.members? with
  | .string, some _ => .enumeration
  | kind, _ => kind

/-- The pattern that counts: a written one that is not empty, else the one of the type. -/
def pattern? (parameter : FlatParameter) : Option String :=
  ((parameter.rules.bind FlatRules.pattern).filter fun s ↦ s ≠ "").or
    (typePattern? parameter.type)

/-- The rules that count on the kind. -/
def fieldRules (parameter : FlatParameter) : Rules :=
  let rules := parameter.rules.getD {}
  match parameter.kind with
  | .number => { required := some parameter.required, min := rules.min, max := rules.max }
  | .string =>
    { required := some parameter.required, minLength := rules.minLength,
      maxLength := rules.maxLength, regex := parameter.pattern? }
  | _ => { required := some parameter.required }

def description? (parameter : FlatParameter) : Option String :=
  if parameter.description = "" then none else some parameter.description

def itemName : String := "item"

mutual
/-- Lowers a parameter into a field of the given name. -/
def toField (name : String) : FlatParameter → Field
  | ⟨type, description, required, members, properties, items, rules⟩ =>
    let parameter : FlatParameter :=
      ⟨type, description, required, members, properties, items, rules⟩
    { name := name
      kind := parameter.kind
      description := parameter.description?
      rules := some parameter.fieldRules
      members := if parameter.kind = .enumeration then parameter.members? else none
      children :=
        match baseKind type with
        | .object =>
          (match properties with
            | none => none
            | some properties => some (toFields properties))
        | .array =>
          (match items with
            | none => none
            | some item => some [toField itemName item])
        | _ => none }

def toFields : List (String × FlatParameter) → List Field
  | [] => []
  | (name, parameter) :: rest => toField name parameter :: toFields rest
end

end FlatParameter

namespace FlatParameters

def rootName : String := "parameters"

def toField (parameters : FlatParameters) : Field :=
  { name := rootName, kind := .object,
    children := some (FlatParameter.toFields parameters.properties) }

end FlatParameters

end ToolSchema
