import ToolSchema.Options

/-!
# Command line arguments

A command line names a command and its options. An option stands behind two hyphens by its long name
or behind one by its letter; its value is the next argument, or follows an equals sign, or follows
the letter. An option that takes several values takes all arguments up to the next option.
-/

namespace ToolSchema.Command

inductive Arity where
  | flag | one | many
deriving DecidableEq

/-- An option of a command: its names, how many values it takes, and which values make sense. -/
structure OptionSpec where
  long : String
  short : Option Char := none
  arity : Arity := .one
  admits : String → Bool := fun _ ↦ true

/-- What a list of arguments says: options with their values, a request for help, or nothing that
makes sense. -/
inductive Scan where
  | found (values : List (String × List String))
  | help
  | misuse

/-- An option that waits for values, with those it has. -/
abbrev Pending := Option (OptionSpec × List String)

/-- The state of a scan: what has been found, and the option that waits for values. -/
structure Scanner where
  values : List (String × List String) := []
  pending : Pending := none

namespace Scanner

/-- Records an option with values that make sense. Only an option that takes several values may come
again. -/
def record (scanner : Scanner) (spec : OptionSpec) (values : List String) : Option Scanner :=
  if !values.all spec.admits then none
  else
    match lookup spec.long scanner.values with
    | none => some ⟨insert spec.long values scanner.values, none⟩
    | some earlier =>
      if spec.arity = .many then some ⟨insert spec.long (earlier ++ values) scanner.values, none⟩
      else none

/-- Ends the wait for values. There must be one. -/
def close (scanner : Scanner) : Option Scanner :=
  match scanner.pending with
  | none => some scanner
  | some (_, []) => none
  | some (spec, values) => scanner.record spec values

/-- Takes an argument that is no option. -/
def takeValue (scanner : Scanner) (value : String) : Option Scanner :=
  match scanner.pending with
  | none => none
  | some (spec, values) =>
    if spec.arity = .many then some { scanner with pending := some (spec, values ++ [value]) }
    else scanner.record spec [value]

/-- Takes an option, with a value if one is attached. -/
def takeOption (scanner : Scanner) (spec : OptionSpec) (attached : Option String) :
    Option Scanner := do
  let scanner ← scanner.close
  match spec.arity, attached with
  | .flag, none => scanner.record spec []
  | .flag, some _ => none
  | _, some value => scanner.record spec [value]
  | _, none => some { scanner with pending := some (spec, []) }

end Scanner

/-- The name of a long option and the value behind an equals sign. -/
def splitLong (cs : List Char) : String × Option String :=
  (String.ofList (cs.takeWhile (· ≠ '=')),
    match cs.dropWhile (· ≠ '=') with
    | [] => none
    | _ :: value => some (String.ofList value))

/-- The value behind the letter of an option. An equals sign in between is no part of it. -/
def splitShort : List Char → Option String
  | [] => none
  | '=' :: value => some (String.ofList value)
  | value => some (String.ofList value)

def scan (specs : List OptionSpec) : Scanner → List String → Scan
  | scanner, [] =>
    match scanner.close with
    | some scanner => .found scanner.values
    | none => .misuse
  | scanner, argument :: rest =>
    let continue? (next : Option Scanner) : Scan :=
      match next with
      | some scanner => scan specs scanner rest
      | none => .misuse
    match argument.toList with
    | ['-', '-'] =>
      (match scanner.close, rest with
        | some scanner, [] => .found scanner.values
        | _, _ => .misuse)
    | '-' :: '-' :: name =>
      let (name, attached) := splitLong name
      (match specs.find? fun spec ↦ spec.long = name with
        | some spec => continue? (scanner.takeOption spec attached)
        | none =>
          if name = "help" && attached.isNone && scanner.close.isSome then .help else .misuse)
    | '-' :: letter :: value =>
      (match specs.find? fun spec ↦ spec.short = some letter with
        | some spec => continue? (scanner.takeOption spec (splitShort value))
        | none => if letter = 'h' && scanner.close.isSome then .help else .misuse)
    | _ => continue? (scanner.takeValue argument)

/-- The settings of compilation that arguments give; they override those of the environment. -/
structure Settings where
  coercion : Option CoercionPolicy := none
  unknownKeys : Option UnknownKeys := none
  strict : Bool := false

end ToolSchema.Command

namespace ToolSchema

/-! ## Commands -/

inductive Command where
  | codegen (schema : String) (noCoerce : Bool) (coercion : Option CoercionPolicy)
      (unknownKeys : Option UnknownKeys) (out : Option String)
  | jsonSchema (schema : String) (name description : Option String) (bare : Bool)
      (out : Option String)
  | validate (schema : String) (pointer : Option String) (inputs : List String)
      (settings : Command.Settings)
  | check (inputs : List String) (settings : Command.Settings)
  | roundtrip (schema : String) (settings : Command.Settings) (out : Option String)

inductive Invocation where
  | command (command : Command)
  | help
  | version
  | misuse

namespace Command

/-- A path must not be empty. -/
def isPath (value : String) : Bool := value ≠ ""

def coercionOf? (value : String) : Option CoercionPolicy :=
  named? CoercionPolicy.name CoercionPolicy.all value

def unknownKeysOf? (value : String) : Option UnknownKeys :=
  named? UnknownKeys.name UnknownKeys.all value

def schemaOption : OptionSpec := ⟨"schema", some 's', .one, isPath⟩

def outOption : OptionSpec := ⟨"out", some 'o', .one, isPath⟩

def inputOption : OptionSpec := { long := "input", short := some 'i', arity := .many }

def textOption (name : String) : OptionSpec := { long := name }

def flagOption (name : String) : OptionSpec := { long := name, arity := .flag }

def policyOptions : List OptionSpec :=
  [⟨"coerce", none, .one, fun value ↦ (coercionOf? value).isSome⟩,
   ⟨"unknown-keys", none, .one, fun value ↦ (unknownKeysOf? value).isSome⟩]

def settingsOptions : List OptionSpec := policyOptions ++ [flagOption "strict"]

def optionsOf? (command : String) : Option (List OptionSpec) :=
  match command with
  | "codegen" => some (schemaOption :: outOption :: flagOption "no-coerce" :: policyOptions)
  | "json-schema" =>
    some [schemaOption, outOption, textOption "name", textOption "description", flagOption "bare"]
  | "validate" =>
    some (schemaOption :: inputOption :: textOption "json-pointer" :: settingsOptions)
  | "check" => some (inputOption :: settingsOptions)
  | "roundtrip" => some (schemaOption :: outOption :: settingsOptions)
  | _ => none

/-- The values found on a command line, by the long names of their options. -/
abbrev Values := List (String × List String)

namespace Values

def has (values : Values) (name : String) : Bool := (lookup name values).isSome

def text? (values : Values) (name : String) : Option String :=
  (lookup name values).bind List.head?

def coercion? (values : Values) : Option CoercionPolicy :=
  (values.text? "coerce").bind coercionOf?

def unknownKeys? (values : Values) : Option UnknownKeys :=
  (values.text? "unknown-keys").bind unknownKeysOf?

def settings (values : Values) : Settings :=
  ⟨values.coercion?, values.unknownKeys?, values.has "strict"⟩

/-- The command of a name with these values. What it needs must be there, and a policy of coercion
goes badly with its absence. -/
def command? (values : Values) (name : String) : Option Command :=
  let out := values.text? "out"
  match name with
  | "codegen" => do
    let schema ← values.text? "schema"
    if values.has "coerce" && values.has "no-coerce" then none
    else some (.codegen schema (values.has "no-coerce") values.coercion? values.unknownKeys? out)
  | "json-schema" => do
    let schema ← values.text? "schema"
    some (.jsonSchema schema (values.text? "name") (values.text? "description")
      (values.has "bare") out)
  | "validate" => do
    let schema ← values.text? "schema"
    let inputs ← lookup "input" values
    some (.validate schema (values.text? "json-pointer") inputs values.settings)
  | "check" => do
    let inputs ← lookup "input" values
    some (.check inputs values.settings)
  | "roundtrip" => do
    let schema ← values.text? "schema"
    some (.roundtrip schema values.settings out)
  | _ => none

end Values

def readNamed (name : String) (arguments : List String) : Invocation :=
  match optionsOf? name with
  | none => .misuse
  | some specs =>
    match scan specs {} arguments with
    | .help => .help
    | .misuse => .misuse
    | .found values =>
      match Values.command? values name with
      | some command => .command command
      | none => .misuse

def read (arguments : List String) : Invocation :=
  match arguments with
  | [] => .misuse
  | ["help"] => .help
  | ["help", name] => if name = "help" || (optionsOf? name).isSome then .help else .misuse
  | first :: rest =>
    match first.toList with
    | '-' :: 'h' :: _ => .help
    | '-' :: 'V' :: _ => .version
    | _ =>
      if first = "--help" then .help
      else if first = "--version" then .version
      else readNamed first rest

def versionLine : String := "toolshape 0.1.0\n"

def usage : String :=
  String.join <|
    ["compile tool schemas into validators, zod source, or JSON Schema",
     "",
     "Usage: toolshape <COMMAND>",
     "",
     "Commands:",
     "  codegen      emit zod-style source for a schema",
     "  json-schema  emit a JSON Schema function definition for a schema",
     "  validate     validate argument documents against a schema",
     "  check        load and compile many schema files",
     "  roundtrip    compile, then introspect back into IR",
     "  help         Print this message or the help of the given subcommand(s)",
     "",
     "Options:",
     "  -h, --help     Print help",
     "  -V, --version  Print version"].map (· ++ "\n")

end Command

end ToolSchema
