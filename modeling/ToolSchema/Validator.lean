import ToolSchema.Pattern
import ToolSchema.Predicate

/-!
# Validators

A validator is a tree over the kinds of values: what a value must be, and on top of that checks,
refinements, a default and whether the value may be missing. It can be built by hand from the
constructors here, or compiled from a field.
-/

namespace ToolSchema

/-- What happens to the keys of an object that no field is declared for: they are kept, dropped, or
each is an issue. -/
inductive UnknownKeys where
  | passthrough | strip | reject
deriving DecidableEq

namespace UnknownKeys

def name : UnknownKeys → String
  | passthrough => "passthrough"
  | strip => "strip"
  | reject => "reject"

def all : List UnknownKeys := [passthrough, strip, reject]

end UnknownKeys

/-- A check on a value that has the right kind. Bounds count on numbers; lengths, in characters, and
patterns count on texts. A pattern that is no pattern refuses every text. -/
inductive Check where
  | min (bound : Double)
  | max (bound : Double)
  | minLength (length : UInt64)
  | maxLength (length : UInt64)
  | pattern (pattern : Pattern)
  | unusablePattern (source : String)

/-- A predicate under the name it was looked up by. -/
structure Refinement where
  name : String
  predicate : Predicate

/-- What a value must be, over validators `ν` for its parts. -/
inductive ValidatorKind (ν : Type) where
  | any
  | string
  | number (coerce : Bool)
  | boolean
  | date (coerce : Bool)
  | enumeration (members : List String)
  | array (item : ν)
  | object (fields : List (String × ν)) (unknownKeys : UnknownKeys)
  | union (first second : ν)

structure Validator where
  kind : ValidatorKind Validator
  optional : Bool := false
  checks : List Check := []
  refinements : List Refinement := []
  default : Option Json := none
  description : Option String := none

namespace Validator

def any : Validator := { kind := .any }

def string : Validator := { kind := .string }

/-- Accepts numbers, and texts that stand for numbers if it coerces. -/
def number (coerce : Bool) : Validator := { kind := .number coerce }

def boolean : Validator := { kind := .boolean }

/-- Accepts moments, and more ways to write them if it coerces. -/
def date (coerce : Bool) : Validator := { kind := .date coerce }

def enumeration (members : List String) : Validator := { kind := .enumeration members }

def array (item : Validator) : Validator := { kind := .array item }

/-- Accepts objects with the given fields. Of two fields under one name the last is kept, in the
first one's place. -/
def object (fields : List (String × Validator)) : Validator :=
  { kind := .object (collect fields) .passthrough }

def union (first second : Validator) : Validator := { kind := .union first second }

def makeOptional (v : Validator) : Validator := { v with optional := true }

def check (v : Validator) (check : Check) : Validator := { v with checks := v.checks ++ [check] }

def refine (v : Validator) (name : String) (predicate : Predicate) : Validator :=
  { v with refinements := v.refinements ++ [⟨name, predicate⟩] }

def withDefault (v : Validator) (value : Json) : Validator := { v with default := some value }

def describe (v : Validator) (description : String) : Validator :=
  { v with description := some description }

/-- Sets the policy for undeclared keys; only objects have one. -/
def withUnknownKeys (v : Validator) (policy : UnknownKeys) : Validator :=
  match v.kind with
  | .object fields _ => { v with kind := .object fields policy }
  | _ => v

def acceptsMissing (v : Validator) : Bool := v.optional || v.default.isSome

end Validator

end ToolSchema
