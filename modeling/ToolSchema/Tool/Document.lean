import ToolSchema.Tool.Record

/-!
# Schema documents

A schema file holds a tool record, which is an object with parameters, or the parameters alone. The
parameters of a record are decoded first, so that a failure inside of them can say where it is.
-/

namespace ToolSchema

namespace SchemaError

def ofDecoding (error : DecodeError) : SchemaError :=
  .undecodable error.pathText error.misfit.message

def ofReading (source : Json.Source) (error : DecodeError) : SchemaError :=
  .undecodable error.pathText (error.message source)

end SchemaError

/-- Decodes a text as a value of a type. What follows the value is left alone. -/
def Json.Source.decode {α : Type} (decode : Marked → Decoded α) (source : Json.Source) :
    Except SchemaError α :=
  (decode source.read).mapError (SchemaError.ofReading source)

def Json.decode {α : Type} (decode : Marked → Decoded α) (document : Json) :
    Except SchemaError α :=
  (decode (.ofJson document)).mapError SchemaError.ofDecoding

/-- Loads a field from a text, with its defaults resolved. -/
def Field.load (text : String) : Except SchemaError Field :=
  ((Json.Source.ofString text).decode Field.decode).map Field.resolveDefaults

/-- Loads parameters of either shape from a document. Text defaults are resolved. -/
def ToolParams.load (document : Json) : Except SchemaError ToolParams :=
  if isFlat document then (document.decode FlatParameters.decode).map .flat
  else (document.decode Field.decode).map fun field ↦ .field field.resolveDefaults

/-- What a schema file can hold. -/
inductive SchemaDocument where
  | record (record : ToolRecord)
  | params (parameters : ToolParams)

namespace SchemaDocument

def parameters : SchemaDocument → ToolParams
  | record r => r.parameters
  | params p => p

/-- The name of a document: that of the tool, or of the field. -/
def displayName : SchemaDocument → String
  | record r => r.name
  | params p => p.schemaField.name

def toCallableTool (compiler : Compiler) : SchemaDocument → Compiled CallableTool
  | record r => r.toCallableTool compiler
  | params p =>
    compiler.toCallableTool p.schemaField.name (p.schemaField.description.getD "") p

/-- An error inside the parameters of a record. -/
def underParameters : SchemaError → SchemaError
  | .undecodable path message => .undecodable ("parameters." ++ path) message
  | error => error

def ofJson (value : Json) : Except SchemaError SchemaDocument :=
  match value.get? "parameters" with
  | some inner => do
    let parameters ← (ToolParams.load inner).mapError underParameters
    let record ← value.decode ToolRecord.decode
    .ok (.record { record with parameters := parameters })
  | none => (ToolParams.load value).map .params

def load (text : String) : Except SchemaError SchemaDocument := do
  let value ← (Json.Source.ofString text).decode Marked.decodeAny
  ofJson value

end SchemaDocument

end ToolSchema
