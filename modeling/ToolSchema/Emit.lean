import ToolSchema.Field
import ToolSchema.Json.Printer
import ToolSchema.Validator

/-!
# Emitting source text

A field is written as a TypeScript expression that builds a zod schema, and as a module that
declares and exports it. The text depends on the field alone and on two settings. Modifiers are
chained in one order: optional, bounds, pattern, custom check, default, description.
-/

namespace ToolSchema

/-! ## Names and literals -/

def isIdentifierChar (c : Char) : Bool := c.isAlphanum || c = '_' || c = '$'

def isIdentifierStart (c : Char) : Bool := isIdentifierChar c && !c.isDigit

def isIdentifier (s : String) : Bool :=
  match s.toList with
  | [] => false
  | c :: rest => isIdentifierStart c && rest.all isIdentifierChar

/-- The name to declare a field under: what a name cannot hold becomes an underscore, a digit does
not come first, and where nothing but underscores is left the name is `root`. -/
def identifier (name : String) : String :=
  let cs := (Text.trimChars name.toList).map fun c ↦ if isIdentifierChar c then c else '_'
  if cs.all (· = '_') then "root"
  else if cs.head?.any Char.isDigit then String.ofList ('_' :: cs)
  else String.ofList cs

/-- A key of an object literal, quoted unless it is a name. -/
def objectKey (name : String) : String := if isIdentifier name then name else Json.quoted name

def singleQuotedChar (c : Char) : List Char :=
  if c = '\\' then ['\\', '\\']
  else if c = '\'' then ['\\', '\'']
  else if c = '\n' then ['\\', 'n']
  else [c]

def singleQuoted (s : String) : String :=
  String.ofList ('\'' :: s.toList.flatMap singleQuotedChar ++ ['\''])

/-- Puts a backslash before each slash that has none; `escaped` says that a backslash came just
before. -/
def escapeSlashes (escaped : Bool) : List Char → List Char
  | [] => []
  | c :: rest =>
    let next := escapeSlashes (c = '\\' && !escaped) rest
    if c = '/' && !escaped then '\\' :: c :: next else c :: next

/-- The text of a pattern between the slashes of a literal. -/
def regexLiteralBody (source : String) : String :=
  String.ofList (escapeSlashes false source.toList)

/-! ## Expressions -/

/-- The settings of emission: whether numbers and dates are coerced, and whether undeclared keys are
rejected. -/
structure Emitter where
  coerce : Bool := true
  unknownKeys : UnknownKeys := .passthrough

namespace Emitter

/-- What marks an object that rejects undeclared keys. -/
def strictness (emitter : Emitter) : String :=
  if emitter.unknownKeys = .reject then ".strict()" else ""

/-- A call of a method, if there is an argument. -/
def call {α : Type} (method : String) (argument : α → String) (value : Option α) : String :=
  match value with
  | some v => "." ++ method ++ "(" ++ argument v ++ ")"
  | none => ""

def ruleModifiers (kind : FieldKind) (rules : Rules) : String :=
  let constraints :=
    match kind with
    | .number => call "min" Numeral.plain rules.min ++ call "max" Numeral.plain rules.max
    | .string =>
      call "min" (fun n : UInt64 ↦ toString n.toNat) rules.minLength ++
      call "max" (fun n : UInt64 ↦ toString n.toNat) rules.maxLength ++
      call "regex" (fun s ↦ "/" ++ regexLiteralBody s ++ "/") rules.pattern?
    | _ => ""
  (if rules.isRequired then "" else ".optional()") ++ constraints ++
    call "refine" id rules.custom? ++ call "default" Json.compact rules.default

def modifiers (kind : FieldKind) (rules : Option Rules) (description : Option String) : String :=
  (match rules with
    | some rules => ruleModifiers kind rules
    | none => "") ++ call "describe" Json.quoted description

mutual
/-- The expression of a field at a depth of nesting. -/
def node (emitter : Emitter) (depth : Nat) : Field → String
  | ⟨_, kind, description, rules, members, children, calculation⟩ =>
    let base :=
      match kind with
      | .string => "z.string()"
      | .number => if emitter.coerce then "z.coerce.number()" else "z.number()"
      | .boolean => "z.boolean()"
      | .date => if emitter.coerce then "z.coerce.date()" else "z.date()"
      | .enumeration =>
        (match members.filter fun ms ↦ !ms.isEmpty with
          | some members =>
            "z.enum([" ++ String.intercalate ", " (members.map singleQuoted) ++ "])"
          | none => "z.string()")
      | .object =>
        (match children with
          | none => "z.record(z.any())"
          | some [] => "z.object(\x7b\x7d)" ++ emitter.strictness
          | some (first :: rest) =>
            "z.object(\x7b\n" ++ Json.indent (depth + 1) ++ objectKey first.name ++ ": " ++
              emitter.node (depth + 1) first ++ emitter.members (depth + 1) rest ++
              "\n" ++ Json.indent depth ++ "\x7d)" ++ emitter.strictness)
      | .array =>
        (match children with
          | some (item :: _) => "z.array(" ++ emitter.node depth item ++ ")"
          | _ => "z.array(z.any())")
      | .union =>
        (match children with
          | some (first :: second :: _) =>
            "z.union([" ++ emitter.node depth first ++ ", " ++ emitter.node depth second ++ "])"
          | _ => "z.any()")
      | .calculated =>
        (match calculation with
          | some c =>
            "z.function().implement((" ++ String.intercalate ", " c.dependencies ++ ") => " ++
              c.formula ++ ")"
          | none => "z.any()")
      | .file => "z.any()"
      | .unsupported => "z.any()"
    base ++ modifiers kind rules description

/-- Further members of an object literal, each after a comma on a line of its own. -/
def members (emitter : Emitter) (depth : Nat) : List Field → String
  | [] => ""
  | field :: rest =>
    ",\n" ++ Json.indent depth ++ objectKey field.name ++ ": " ++ emitter.node depth field ++
      emitter.members depth rest
end

def expression (emitter : Emitter) (field : Field) : String := emitter.node 0 field

/-- A module that declares and exports the expression of a field. -/
def moduleText (emitter : Emitter) (field : Field) : String :=
  let name := identifier field.name
  "import \x7b z \x7d from 'zod';\n\nconst " ++ name ++ "Schema = " ++ emitter.expression field ++
    ";\n\nexport default " ++ name ++ "Schema;\n"

/-- The modules of fields, with an empty line between two of them. -/
def moduleTexts (emitter : Emitter) (fields : List Field) : String :=
  String.intercalate "\n" (fields.map emitter.moduleText)

end Emitter

end ToolSchema
