import ToolSchema.Compile
import ToolSchema.Declaration
import ToolSchema.Field.Decode
import ToolSchema.Field.Defaults
import ToolSchema.Flat.Decode
import ToolSchema.Flat.Encode

/-!
# Tools

The parameters of a tool come in one of two shapes, a flat map or a field, and both lead to a field.
A callable tool is a name, a description, that field and the validator compiled from it; arguments
are to be validated before a call counts.
-/

namespace ToolSchema

/-- The parameters of a tool, in either shape. -/
inductive ToolParams where
  | flat (parameters : FlatParameters)
  | field (field : Field)

namespace ToolParams

/-- Whether a document is a flat map: an object with properties. -/
def isFlat (document : Json) : Bool := (document.get? "properties").isSome

/-- Decodes a document that was read before, and resolves its text defaults. -/
def ofJson (document : Json) : Decoded ToolParams :=
  if isFlat document then (FlatParameters.decode (.ofJson document)).map .flat
  else (Field.decode (.ofJson document)).map fun field ↦ .field field.resolveDefaults

/-- Decodes parameters. What is wrong inside of them is reported of them as a whole, at the given
byte. -/
def decodeAt (offset : Option Nat) (m : Marked) : Decoded ToolParams := do
  let document ← m.decodeAny
  (ofJson document).mapError fun error ↦ .here error.misfit offset

def toJson : ToolParams → Json
  | flat parameters => parameters.toJson
  | field f => f.toJson

def shape : ToolParams → Shape
  | flat _ => .flat
  | field _ => .field

def schemaField : ToolParams → Field
  | flat parameters => parameters.toField
  | field f => f

end ToolParams

structure CallableTool where
  name : String
  description : String
  schema : Field
  validator : Validator

namespace CallableTool

/-- Validates arguments; a rejection is an event. -/
def validate (tool : CallableTool) (arguments : Json) : List Event × Except Rejection Json :=
  match tool.validator.validate arguments with
  | .ok value => ([], .ok value)
  | .error rejection => ([.rejected tool.name rejection.issues.length], .error rejection)

def definition (tool : CallableTool) : Json :=
  tool.schema.functionDefinition tool.name tool.description

end CallableTool

namespace Compiler

def toCallableTool (compiler : Compiler) (name description : String) (parameters : ToolParams) :
    Compiled CallableTool := do
  let schema := parameters.schemaField
  let validator ← compiler.compileShaped parameters.shape schema
  pure ⟨name, description, schema, validator⟩

end Compiler

/-- Compiles parameters into a tool with default options and the built-in predicates. -/
def ToolParams.toCallableTool (name description : String) (parameters : ToolParams) :
    Compiled CallableTool :=
  Compiler.toCallableTool {} name description parameters

end ToolSchema
