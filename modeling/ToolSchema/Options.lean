import ToolSchema.Validator
import ToolSchema.Json.Decode

/-!
# Compile options

Options say whether numbers and dates may come in other forms, what happens to undeclared keys, and
whether a malformed field fails to compile or is compiled as well as it can be. They are read from a
document or looked up under three names, where what is missing or blank keeps its default.
-/

namespace ToolSchema

/-- What a field was compiled from: a field, or a flat parameter map. -/
inductive Shape where
  | field | flat
deriving DecidableEq

namespace Shape

def name : Shape → String
  | field => "Field"
  | flat => "Flat"

end Shape

/-- Whether numbers and dates may come in other forms. By default they may in fields but not in flat
parameter maps. -/
inductive CoercionPolicy where
  | default | always | never
deriving DecidableEq

namespace CoercionPolicy

def name : CoercionPolicy → String
  | default => "default"
  | always => "always"
  | never => "never"

def all : List CoercionPolicy := [default, always, never]

/-- Whether values are coerced in what was compiled from a shape. -/
def resolve : CoercionPolicy → Shape → Bool
  | default, shape => shape = .field
  | always, _ => true
  | never, _ => false

end CoercionPolicy

structure CompileOptions where
  coercion : CoercionPolicy := .default
  unknownKeys : UnknownKeys := .passthrough
  strict : Bool := false
deriving DecidableEq

structure ConfigError where
  name : String
  value : String
deriving DecidableEq

def ConfigError.message (error : ConfigError) : String :=
  "invalid value \x60" ++ error.value ++ "\x60 for " ++ error.name

/-- The value of a name among values with names. -/
def named? {α : Type} (name : α → String) (values : List α) (text : String) : Option α :=
  values.find? fun v ↦ name v = text

namespace CompileOptions

def resolveName {α : Type} (name : α → String) (values : List α) (text : String) :
    Except Misfit α :=
  match named? name values text with
  | some v => .ok v
  | none => .error (.unknownVariant text (values.map name))

def memberNames : List String := ["coercion", "unknownKeys", "strict"]

def decodeMember (name : String) (m : Marked) (options : CompileOptions) :
    Decoded CompileOptions :=
  match name with
  | "coercion" =>
    (m.decodeVariant (resolveName CoercionPolicy.name CoercionPolicy.all)).map fun v ↦
      { options with coercion := v }
  | "unknownKeys" =>
    (m.decodeVariant (resolveName UnknownKeys.name UnknownKeys.all)).map fun v ↦
      { options with unknownKeys := v }
  | "strict" => m.decodeBool.map fun v ↦ { options with strict := v }
  | _ => .ok options

def decode (m : Marked) : Decoded CompileOptions :=
  m.decodeRecord "struct CompileOptions" memberNames decodeMember {}

def toJson (options : CompileOptions) : Json :=
  .object
    [("coercion", .string options.coercion.name),
     ("unknownKeys", .string options.unknownKeys.name),
     ("strict", .bool options.strict)]

/-! ## Variables -/

def coercionVariable : String := "TOOLSHAPE_COERCE"

def unknownKeysVariable : String := "TOOLSHAPE_UNKNOWN_KEYS"

def strictVariable : String := "TOOLSHAPE_STRICT"

def variableNames : List String := [coercionVariable, unknownKeysVariable, strictVariable]

/-- The value of a variable without blanks at its ends, unless it is blank. -/
def lookUp (environment : String → Option String) (name : String) : Option String :=
  ((environment name).map Text.trim).filter fun v ↦ v ≠ ""

def readVariable {α : Type} (environment : String → Option String) (name : String) (initial : α)
    (read? : String → Option α) : Except ConfigError α :=
  match lookUp environment name with
  | none => .ok initial
  | some value =>
    match read? value with
    | some v => .ok v
    | none => .error ⟨name, value⟩

/-- The text in lower case, ASCII letters alone. -/
def lower (s : String) : String := String.ofList (s.toList.map Char.toLower)

/-- The truth value of a word or digit. -/
def truth? (value : String) : Option Bool :=
  match lower value with
  | "true" => some true
  | "1" => some true
  | "false" => some false
  | "0" => some false
  | _ => none

/-- Options from variables. Letter case does not matter. -/
def ofEnvironment (environment : String → Option String) : Except ConfigError CompileOptions := do
  let coercion ← readVariable environment coercionVariable .default fun value ↦
    named? CoercionPolicy.name CoercionPolicy.all (lower value)
  let unknownKeys ← readVariable environment unknownKeysVariable .passthrough fun value ↦
    named? UnknownKeys.name UnknownKeys.all (lower value)
  let strict ← readVariable environment strictVariable false truth?
  .ok ⟨coercion, unknownKeys, strict⟩

end CompileOptions

end ToolSchema
