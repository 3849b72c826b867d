import ToolSchema.Tool.Record

/-!
# Tool sets

A tool set holds tools under their names, in the order in which the names first came. Calls are
validated before they are dispatched, and a call fails for one of three reasons.
-/

namespace ToolSchema

inductive ToolCallError where
  | unknownTool (name : String)
  | invalidArguments (tool : String) (rejection : Rejection)
  | execution (tool : String) (message : String)

namespace ToolCallError

def message : ToolCallError → String
  | unknownTool name => "unknown tool \x60" ++ name ++ "\x60"
  | invalidArguments tool rejection =>
    "invalid arguments for tool \x60" ++ tool ++ "\x60: " ++ rejection.render
  | execution tool message => "tool \x60" ++ tool ++ "\x60 failed: " ++ message

def userMessage : ToolCallError → String
  | unknownTool _ => "The model tried to call an unknown tool."
  | invalidArguments _ _ => "The model called a tool with invalid arguments."
  | execution _ _ => "An error occurred during tool execution."

end ToolCallError

structure ToolSet where
  entries : List (String × CallableTool) := []

namespace ToolSet

/-- The set with one more tool, or another one under its name. -/
def insert (set : ToolSet) (tool : CallableTool) : ToolSet :=
  ⟨ToolSchema.insert tool.name tool set.entries⟩

def get? (set : ToolSet) (name : String) : Option CallableTool := lookup name set.entries

/-- Inserts a tool and gives the one that it replaces. -/
def replace (set : ToolSet) (tool : CallableTool) : Option CallableTool × ToolSet :=
  (set.get? tool.name, set.insert tool)

def names (set : ToolSet) : List String := set.entries.map Prod.fst

def size (set : ToolSet) : Nat := set.entries.length

def definitions (set : ToolSet) : List Json := set.entries.map fun entry ↦ entry.2.definition

def insertRecords (compiler : Compiler) (set : ToolSet) : List ToolRecord → Compiled ToolSet
  | [] => pure set
  | record :: rest => do
    let tool ← record.toCallableTool compiler
    insertRecords compiler (set.insert tool) rest

/-- The set of the tools of records. The first record that fails is the error. -/
def ofRecords (compiler : Compiler) (records : List ToolRecord) : Compiled ToolSet :=
  insertRecords compiler {} records

def validateCall (set : ToolSet) (name : String) (arguments : Json) :
    List Event × Except ToolCallError Json :=
  match set.get? name with
  | none => ([], .error (.unknownTool name))
  | some tool =>
    let (events, outcome) := tool.validate arguments
    (events, outcome.mapError (.invalidArguments name))

/-- Validates the arguments of a call and hands what came out to the executor. -/
def dispatch (set : ToolSet) (name : String) (arguments : Json)
    (execute : Json → Except String Json) : List Event × Except ToolCallError Json :=
  let (events, outcome) := set.validateCall name arguments
  (events, do
    let arguments ← outcome
    (execute arguments).mapError (.execution name))

end ToolSet

end ToolSchema
