import ToolSchema.Json.Value
import ToolSchema.Number.Numeral
import ToolSchema.Text.Blank

/-!
# Fields

A field describes a value: its kind, its constraints, and the fields of its parts. The tree of
fields is what validators are compiled from, what source and declarations are written from, and what
introspection gives back.
-/

namespace ToolSchema

/-- The kinds of fields. A tag that is none of the others is unsupported and accepts every value. -/
inductive FieldKind where
  | string | number | boolean | array | object | enumeration | union | date | file | calculated
  | unsupported
deriving DecidableEq

namespace FieldKind

def name : FieldKind → String
  | string => "string"
  | number => "number"
  | boolean => "boolean"
  | array => "array"
  | object => "object"
  | enumeration => "enum"
  | union => "union"
  | date => "date"
  | file => "file"
  | calculated => "calculated"
  | unsupported => "unsupported"

def ofName (tag : String) : FieldKind :=
  match tag with
  | "string" => string
  | "number" => number
  | "boolean" => boolean
  | "array" => array
  | "object" => object
  | "enum" => enumeration
  | "union" => union
  | "date" => date
  | "file" => file
  | "calculated" => calculated
  | _ => unsupported

end FieldKind

/-- The constraints of a field. Numeric bounds count on numbers; lengths, counted in characters, and
the pattern count on strings. `custom` names a registered predicate. -/
structure Rules where
  required : Option Bool := none
  min : Option Double := none
  max : Option Double := none
  minLength : Option UInt64 := none
  maxLength : Option UInt64 := none
  regex : Option String := none
  custom : Option String := none
  default : Option Json := none

namespace Rules

/-- A field is required unless its rules say that it is not. -/
def isRequired (rules : Rules) : Bool := rules.required != some false

/-- The pattern, unless it is empty. -/
def pattern? (rules : Rules) : Option String := rules.regex.filter fun s ↦ s ≠ ""

/-- The name of the custom predicate without white space at its ends, unless it is blank. -/
def custom? (rules : Rules) : Option String :=
  (rules.custom.map Text.trim).filter fun s ↦ s ≠ ""

def isEmpty (rules : Rules) : Bool :=
  rules.required.isNone && rules.min.isNone && rules.max.isNone && rules.minLength.isNone &&
    rules.maxLength.isNone && rules.regex.isNone && rules.custom.isNone && rules.default.isNone

end Rules

/-- The formula of a calculated field: text for display, never evaluated. -/
structure Calculation where
  dependencies : List String := []
  formula : String := ""
deriving DecidableEq

/-- A field. An object's children are its fields by name, an array's first child describes its
items, and a union's first two children are its alternatives. -/
structure Field where
  name : String := ""
  kind : FieldKind
  description : Option String := none
  rules : Option Rules := none
  members : Option (List String) := none
  children : Option (List Field) := none
  calculation : Option Calculation := none

namespace Field

def isRequired (field : Field) : Bool := field.rules.all Rules.isRequired

/-- The members of an enumeration, unless there are none. -/
def members? (field : Field) : Option (List String) := field.members.filter fun ms ↦ !ms.isEmpty

def default? (field : Field) : Option Json := field.rules.bind Rules.default

end Field

end ToolSchema
