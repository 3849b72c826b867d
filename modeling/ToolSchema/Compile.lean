import ToolSchema.Options
import ToolSchema.Field
import ToolSchema.Flat
import ToolSchema.Json.Printer
import ToolSchema.Validator.Run

/-!
# Compiling fields into validators

Compiling goes down the tree of fields. A malformed field is compiled as well as it can be, with a
warning; where the options are strict the first such field is an error instead. A custom check must
be registered in any case. A field's rules are laid over the validator of its kind in one order:
optional, bounds, lengths, pattern, custom check, default, description.
-/

namespace ToolSchema

/-- What is wrong with a field that can still be compiled. -/
inductive Degradation where
  | emptyEnumeration
  | duplicateField (name : String)
  | unionArity (count : Nat)
  | unusablePattern (source : String)
  | droppedDefault (value : Json) (rejection : Rejection)

namespace Degradation

def message : Degradation → String
  | emptyEnumeration => "enum has no enumValues, accepting any string"
  | duplicateField name => "duplicate field \x60" ++ name ++ "\x60, last definition wins"
  | unionArity count =>
    "union has " ++ toString count ++ " alternative(s), " ++
      (if count < 2 then "accepting any value" else "using the first two")
  | unusablePattern source =>
    "invalid regex /" ++ source ++ "/, rejecting every string: malformed pattern"
  | droppedDefault value rejection =>
    "default " ++ value.compact ++ " dropped: " ++ rejection.render

end Degradation

inductive SchemaError where
  | malformed (path : FieldPath) (degradation : Degradation)
  | unknownPredicate (name : String) (path : FieldPath)
  | undecodable (path : String) (message : String)
  | invalidRecord (name : String) (rejection : Rejection)

namespace SchemaError

def message : SchemaError → String
  | malformed path degradation =>
    "malformed schema at " ++ path.render ++ ": " ++ degradation.message
  | unknownPredicate name path =>
    "custom check \x60" ++ name ++ "\x60 at " ++ path.render ++ " is not a registered predicate"
  | undecodable path message => "failed to decode schema document at " ++ path ++ ": " ++ message
  | invalidRecord name rejection =>
    "tool record \x60" ++ name ++ "\x60 is invalid: " ++ rejection.render

end SchemaError

/-- What is worth a line in a log. -/
inductive Event where
  | degraded (path : FieldPath) (degradation : Degradation)
  | unsupported (path : FieldPath)
  | compiled (root : String) (kind : FieldKind) (shape : Shape)
  | rejected (tool : String) (issues : Nat)

/-- What compiling gives: the events in order, up to an error if there is one. -/
structure Compiled (α : Type) where
  events : List Event
  outcome : Except SchemaError α

namespace Compiled

instance : Monad Compiled where
  pure value := ⟨[], .ok value⟩
  bind first next :=
    match first.outcome with
    | .error error => ⟨first.events, .error error⟩
    | .ok value =>
      let second := next value
      ⟨first.events ++ second.events, second.outcome⟩

def event (event : Event) : Compiled Unit := ⟨[event], .ok ()⟩

def fail {α : Type} (error : SchemaError) : Compiled α := ⟨[], .error error⟩

/-- Two compilations that are both carried out, whatever comes of the first one. -/
def both {α : Type} (first second : Compiled α) : Compiled (α × α) :=
  ⟨first.events ++ second.events, do
    let a ← first.outcome
    let b ← second.outcome
    .ok (a, b)⟩

end Compiled

/-- A compiler: options, and the predicates that fields may name. -/
structure Compiler where
  options : CompileOptions := {}
  predicates : Predicates := .builtin

namespace Compiler

/-- Warns of a degradation, or fails if the options are strict. -/
def degrade (compiler : Compiler) (path : FieldPath) (degradation : Degradation) : Compiled Unit :=
  if compiler.options.strict then .fail (.malformed path degradation)
  else .event (.degraded path degradation)

/-- Adds a check if there is a bound for it. -/
def addCheck {α : Type} (check : α → Check) (bound : Option α) (v : Validator) : Validator :=
  match bound with
  | some bound => v.check (check bound)
  | none => v

def addPattern (compiler : Compiler) (path : FieldPath) (source? : Option String) (v : Validator) :
    Compiled Validator :=
  match source? with
  | none => pure v
  | some source =>
    match Pattern.ofSource? source with
    | some pattern => pure (v.check (.pattern pattern))
    | none => do
      compiler.degrade path (.unusablePattern source)
      pure (v.check (.unusablePattern source))

/-- Adds the checks that count on a kind. -/
def addChecks (compiler : Compiler) (path : FieldPath) (kind : FieldKind) (rules : Rules)
    (v : Validator) : Compiled Validator :=
  match kind with
  | .number => pure (addCheck .max rules.max (addCheck .min rules.min v))
  | .string =>
    compiler.addPattern path rules.pattern?
      (addCheck .maxLength rules.maxLength (addCheck .minLength rules.minLength v))
  | _ => pure v

def addCustom (compiler : Compiler) (path : FieldPath) (rules : Rules) (v : Validator) :
    Compiled Validator :=
  match rules.custom? with
  | none => pure v
  | some name =>
    match compiler.predicates.get? name with
    | some predicate => pure (v.refine name predicate)
    | none => .fail (.unknownPredicate name path)

/-- Adds the default, if the validator accepts it. -/
def addDefault (compiler : Compiler) (path : FieldPath) (rules : Rules) (v : Validator) :
    Compiled Validator :=
  match rules.default with
  | none => pure v
  | some value =>
    match v.validate value with
    | .ok _ => pure (v.withDefault value)
    | .error rejection => do
      compiler.degrade path (.droppedDefault value rejection)
      pure v

def addDescription (description : Option String) (v : Validator) : Validator :=
  match description with
  | some text => v.describe text
  | none => v

/-- Lays the rules of a field over the validator of its kind. -/
def addRules (compiler : Compiler) (path : FieldPath) (kind : FieldKind) (rules? : Option Rules)
    (description : Option String) (v : Validator) : Compiled Validator :=
  match rules? with
  | none => pure (addDescription description v)
  | some rules => do
    let v := if rules.isRequired then v else v.makeOptional
    let v ← compiler.addChecks path kind rules v
    let v ← compiler.addCustom path rules v
    let v ← compiler.addDefault path rules v
    pure (addDescription description v)

/-- Warns of a union that has not two alternatives. -/
def checkArity (compiler : Compiler) (path : FieldPath) (count : Nat) : Compiled Unit :=
  if count = 2 then pure () else compiler.degrade path (.unionArity count)

/-- Warns of a field under a name that the table has already. -/
def checkNew (compiler : Compiler) (path : FieldPath) (table : List (String × Validator))
    (name : String) : Compiled Unit :=
  if (lookup name table).isSome then compiler.degrade path (.duplicateField name) else pure ()

mutual
def compileAt (compiler : Compiler) (coerce : Bool) (path : FieldPath) :
    Field → Compiled Validator
  | ⟨_, kind, description, rules, members, children, _⟩ => do
    let base ← compileKind compiler coerce path members kind children
    compiler.addRules path kind rules description base

/-- Compiles the kind of a field at a path, with the members and the children that count on it. -/
def compileKind (compiler : Compiler) (coerce : Bool) (path : FieldPath)
    (members : Option (List String)) : FieldKind → Option (List Field) → Compiled Validator
  | .string, _ => pure .string
  | .number, _ => pure (.number coerce)
  | .boolean, _ => pure .boolean
  | .date, _ => pure (.date coerce)
  | .enumeration, _ =>
    match members.filter fun ms ↦ !ms.isEmpty with
    | some members => pure (.enumeration members)
    | none => do
      compiler.degrade path .emptyEnumeration
      pure .string
  | .array, some (item :: _) => do
    let item ← compileAt compiler coerce (path.index 0) item
    pure (.array item)
  | .array, _ => pure (.array .any)
  | .object, some fields => do
    let fields ← compileFields compiler coerce path [] fields
    pure ((Validator.object fields).withUnknownKeys compiler.options.unknownKeys)
  | .object, none => pure (.object [])
  | .union, some (first :: second :: rest) => do
    compiler.checkArity path (rest.length + 2)
    let (first, second) ← Compiled.both
      (compileAt compiler coerce (path.index 0) first)
      (compileAt compiler coerce (path.index 1) second)
    pure (.union first second)
  | .union, children => do
    compiler.checkArity path (children.getD []).length
    pure .any
  | .file, _ => pure .any
  | .calculated, _ => pure .any
  | .unsupported, _ => do
    Compiled.event (.unsupported path)
    pure .any

/-- Compiles the fields of an object into a table. Of two fields under one name the last is kept, in
the first one's place, with a warning. -/
def compileFields (compiler : Compiler) (coerce : Bool) (path : FieldPath)
    (table : List (String × Validator)) : List Field → Compiled (List (String × Validator))
  | [] => pure table
  | field :: rest => do
    let compiled ← compileAt compiler coerce (path.key field.name) field
    compiler.checkNew path table field.name
    compileFields compiler coerce path (insert field.name compiled table) rest
end

/-- Compiles a field that came in a shape. -/
def compileShaped (compiler : Compiler) (shape : Shape) (field : Field) : Compiled Validator := do
  let v ← compiler.compileAt (compiler.options.coercion.resolve shape) .root field
  Compiled.event (.compiled field.name field.kind shape)
  pure v

def compile (compiler : Compiler) (field : Field) : Compiled Validator :=
  compiler.compileShaped .field field

def compileFlat (compiler : Compiler) (parameters : FlatParameters) : Compiled Validator :=
  compiler.compileShaped .flat parameters.toField

end Compiler

end ToolSchema
