import ToolSchema.Command.Arguments
import ToolSchema.Command.Glob
import ToolSchema.Emit
import ToolSchema.Introspect
import ToolSchema.Json.Pointer
import ToolSchema.Tool.Document

/-!
# Running commands

A command reads a schema file, or many, and prints or writes what it makes of it. It ends in a
report: an exit code, the printed text, and the diagnostics. Where a file cannot be read or makes no
sense, the command fails; a document that a tool rejects is counted instead, and only the end of the
report tells that there was one.
-/

namespace ToolSchema.Command

inductive Failure where
  | settings (error : ConfigError)
  | unreadableSchema (path : String) (error : FileError)
  | unusableSchema (path : String) (error : SchemaError)
  | tool (error : SchemaError)
  | glob (text : String) (error : GlobError)
  | noMatch (text : String)
  | unreadableArguments (path : String) (error : FileError)
  | malformedArguments (path : String) (message : String)
  | emptySelection (pointer path : String)
  | noDirectory (path : String) (error : FileError)
  | unwritable (path : String) (error : FileError)

/-- The text of a schema error with that of its cause. -/
def causes (error : SchemaError) : String :=
  match error with
  | .invalidRecord _ rejection => error.message ++ ": " ++ rejection.render
  | _ => error.message

def Failure.message : Failure → String
  | settings error => "invalid compile settings in environment: " ++ error.message
  | unreadableSchema path error => "failed to read schema file " ++ path ++ ": " ++ error.message
  | unusableSchema path error => "failed to load schema file " ++ path ++ ": " ++ causes error
  | tool error => causes error
  | glob text error => "invalid glob pattern: " ++ text ++ ": " ++ error.message
  | noMatch text => "glob pattern matched no files: " ++ text
  | unreadableArguments path error =>
    "failed to read arguments file " ++ path ++ ": " ++ error.message
  | malformedArguments path message =>
    "failed to parse JSON arguments file " ++ path ++ ": " ++ message
  | emptySelection pointer path => "JSON pointer " ++ pointer ++ " selects nothing in " ++ path
  | noDirectory path error => "failed to create " ++ path ++ ": " ++ error.message
  | unwritable path error => "failed to write " ++ path ++ ": " ++ error.message

structure Report where
  exitCode : Nat := 0
  printed : String := ""
  diagnostics : String := ""
deriving DecidableEq

def Report.ofFailure (failure : Failure) : Report :=
  ⟨1, "", "error: " ++ failure.message ++ "\n"⟩

/-! ## Settings -/

/-- The options that the environment and the settings lead to. The settings come first. -/
def Settings.options (settings : Settings) (environment : String → Option String) :
    Except Failure CompileOptions := do
  let options ← (CompileOptions.ofEnvironment environment).mapError .settings
  .ok
    { coercion := settings.coercion.getD options.coercion
      unknownKeys := settings.unknownKeys.getD options.unknownKeys
      strict := settings.strict || options.strict }

/-! ## Schemas -/

def documentOf (path : String) (source : Except FileError String) :
    Except Failure SchemaDocument := do
  let text ← source.mapError (.unreadableSchema path)
  (SchemaDocument.load text).mapError (.unusableSchema path)

def toolOf (options : CompileOptions) (document : SchemaDocument) : Except Failure CallableTool :=
  (document.toCallableTool { options := options }).outcome.mapError .tool

/-- The field of a document. Where it is a record, the field has the name of the tool. -/
def declaredField : SchemaDocument → Field
  | .record r => { r.parameters.schemaField with name := r.name }
  | .params p => p.schemaField

/-- The description of a document: that of the tool or of the field. -/
def describedAs : SchemaDocument → String
  | .record r => r.description
  | .params p => p.schemaField.description.getD ""

/-! ## Texts of commands -/

def moduleOf (document : SchemaDocument) (noCoerce : Bool) (options : CompileOptions) : String :=
  let emitter : Emitter :=
    ⟨!noCoerce && options.coercion.resolve document.parameters.shape, options.unknownKeys⟩
  emitter.moduleText (declaredField document)

/-- The declaration of a document as a function, or the schema of its parameters alone. -/
def declarationOf (document : SchemaDocument) (name description : Option String) (bare : Bool) :
    Json :=
  let field := declaredField document
  if bare then field.jsonSchema
  else
    field.functionDefinition (name.getD field.name) (description.getD (describedAs document))

def readBack (tool : CallableTool) : Field :=
  tool.validator.introspect (some tool.schema.name)

/-! ## Validation -/

/-- The arguments in a text from a path: one document, or what a pointer selects in it. -/
def argumentsOf (pointer : Option String) (path : String) (source : Except FileError String) :
    Except Failure Json := do
  let text ← source.mapError (.unreadableArguments path)
  let source := Json.Source.ofString text
  let document ← (Json.parse source).mapError fun error ↦
    .malformedArguments path (error.message source)
  match pointer with
  | none => .ok document
  | some p =>
    match document.select? p with
    | some selected => .ok selected
    | none => .error (.emptySelection p path)

/-- The lines of a document that was validated: a tick, or a cross and an indented line for each
issue. -/
def verdict (tool : CallableTool) (path : String) (document : Json) : String :=
  match tool.validator.validate document with
  | .ok _ => "✅ " ++ path ++ "\n"
  | .error rejection =>
    "❌ " ++ path ++ "\n" ++
      String.join (rejection.issues.map fun issue ↦ "    " ++ issue.render ++ "\n")

/-- Reports on documents one after the other, up to the first one that could not be had. The number
of rejected documents so far is given. -/
def reportVerdicts (tool : CallableTool) (rejected : Nat) :
    List (String × Except Failure Json) → Report
  | [] =>
    if rejected = 0 then {}
    else
      ⟨1, "", toString rejected ++ " document(s) rejected by \x60" ++ tool.name ++ "\x60\n"⟩
  | (_, .error failure) :: _ => .ofFailure failure
  | (path, .ok document) :: rest =>
    let later :=
      reportVerdicts tool (if tool.validator.accepts document then rejected else rejected + 1) rest
    { later with printed := verdict tool path document ++ later.printed }

/-! ## Checks -/

def checkLine (path : String) : Except Failure CallableTool → String
  | .ok tool => "✅ " ++ path ++ " (" ++ tool.name ++ ")\n"
  | .error failure => "❌ " ++ path ++ ": " ++ failure.message ++ "\n"

def reportChecks (results : List (String × Except Failure CallableTool)) : Report :=
  let printed := String.join (results.map fun result ↦ checkLine result.1 result.2)
  let failed := (results.filter fun result ↦ !result.2.isOk).length
  if failed = 0 then { printed := printed }
  else
    ⟨1, printed,
      toString failed ++ " of " ++ toString results.length ++ " schema file(s) failed\n"⟩

/-! ## Files -/

variable {m : Type → Type} [Monad m]

abbrev Attempt (m : Type → Type) (α : Type) : Type := ExceptT Failure m α

def readDocument (files : FileAccess m) (path : String) : Attempt m SchemaDocument :=
  ExceptT.mk do return documentOf path (← files.read path)

def readTool (files : FileAccess m) (options : CompileOptions) (path : String) :
    Attempt m CallableTool := do
  toolOf options (← readDocument files path)

/-- The files that an input stands for: those that match it if it is a glob, or the one it names. -/
def inputPaths (files : FileAccess m) (text : String) : Attempt m (List String) := do
  if Glob.isGlob text then
    let glob ← (Glob.read text).mapError (Failure.glob text)
    match ← (Glob.paths files glob : m (List String)) with
    | [] => throw (.noMatch text)
    | paths => return paths
  else return [text]

def allInputPaths (files : FileAccess m) (inputs : List String) : Attempt m (List String) :=
  return (← inputs.mapM (inputPaths files)).flatten

def readArguments (files : FileAccess m) (pointer : Option String) (paths : List String) :
    m (List (String × Except Failure Json)) :=
  paths.mapM fun path ↦ do return (path, argumentsOf pointer path (← files.read path))

def readTools (files : FileAccess m) (options : CompileOptions) (paths : List String) :
    m (List (String × Except Failure CallableTool)) :=
  paths.mapM fun path ↦ do
    let tool ← (readTool files options path).run
    return (path, tool)

/-- Prints a text, or writes it to a file. The directories above the file are made. -/
def deliver (files : FileAccess m) (out : Option String) (text : String) : Attempt m Report := do
  match out with
  | none => return { printed := text ++ "\n" }
  | some path =>
    match parent? path with
    | none => pure ()
    | some above =>
      match ← (makeDirectories files (above.length + 1) above : m _) with
      | .ok () => pure ()
      | .error error => throw (.noDirectory above error)
    match ← files.write path text with
    | .ok () => return {}
    | .error error => throw (.unwritable path error)

/-- Runs a command up to its report, unless it fails. -/
def attempt (files : FileAccess m) (environment : String → Option String) :
    Command → Attempt m Report
  | .codegen schema noCoerce coercion unknownKeys out => do
    let document ← readDocument files schema
    let options ← Settings.options ⟨coercion, unknownKeys, false⟩ environment
    deliver files out (moduleOf document noCoerce options)
  | .jsonSchema schema name description bare out => do
    let document ← readDocument files schema
    deliver files out (declarationOf document name description bare).pretty
  | .validate schema pointer inputs settings => do
    let options ← settings.options environment
    let tool ← readTool files options schema
    let paths ← allInputPaths files inputs
    let documents ← (readArguments files pointer paths : m _)
    return reportVerdicts tool 0 documents
  | .check inputs settings => do
    let options ← settings.options environment
    let paths ← allInputPaths files inputs
    let results ← (readTools files options paths : m _)
    return reportChecks results
  | .roundtrip schema settings out => do
    let options ← settings.options environment
    let tool ← readTool files options schema
    deliver files out (readBack tool).toJson.pretty

def run (files : FileAccess m) (environment : String → Option String) (command : Command) :
    m Report := do
  match ← (attempt files environment command).run with
  | .ok report => return report
  | .error failure => return .ofFailure failure

end ToolSchema.Command
