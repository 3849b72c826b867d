import ToolSchema.Json.Value
import ToolSchema.Text.Blank
import ToolSchema.Text.Escape

/-!
# Registered predicates

A schema never carries code. Its custom checks are names, and a registry says which predicate a name
stands for. Names keep the order in which they were first registered; registering a name again
replaces its predicate.
-/

namespace ToolSchema

abbrev Predicate := Json → Bool

namespace Predicate

/-- Text, list or object that is not empty, or any other value but null. -/
def nonEmpty : Predicate
  | .string s => s ≠ ""
  | .array items => !items.isEmpty
  | .object members => !members.isEmpty
  | .null => false
  | _ => true

def integer : Predicate := fun value ↦ value.number?.any Binary64.isIntegral

def positive : Predicate := fun value ↦ value.number?.any fun x ↦ 0 < x.key

def nonNegative : Predicate := fun value ↦ value.number?.any fun x ↦ 0 ≤ x.key

/-- A text without white space at its ends, or any value but text. -/
def trimmed : Predicate := fun value ↦ value.text?.all fun s ↦ Text.trim s = s

end Predicate

structure Predicates where
  entries : List (String × Predicate) := []

namespace Predicates

def register (predicates : Predicates) (name : String) (predicate : Predicate) : Predicates :=
  ⟨insert name predicate predicates.entries⟩

def get? (predicates : Predicates) (name : String) : Option Predicate :=
  lookup name predicates.entries

def names (predicates : Predicates) : List String := predicates.entries.map Prod.fst

/-- The registry as diagnostics show it: its names between braces. -/
def render (predicates : Predicates) : String :=
  "\x7b" ++ String.intercalate ", " (predicates.names.map Text.debug) ++ "\x7d"

def builtin : Predicates :=
  ⟨[("nonEmpty", .nonEmpty), ("integer", .integer), ("positive", .positive),
    ("nonNegative", .nonNegative), ("trimmed", .trimmed)]⟩

end Predicates

end ToolSchema
