import ToolSchema.Field
import ToolSchema.Validator

/-!
# Reading fields back from validators

Any validator can be described by a field, though not completely: refinements and defaults are lost,
and what no kind stands for comes back as a string. A constraint is kept where it counts, and of
several constraints of one sort the last one.
-/

namespace ToolSchema

namespace Check

/-- Adds what a check says about a field of a kind to its rules. -/
def addTo (kind : FieldKind) (rules : Rules) (check : Check) : Rules :=
  match kind, check with
  | .number, min bound => { rules with min := some bound }
  | .number, max bound => { rules with max := some bound }
  | .string, minLength length => { rules with minLength := some length }
  | .string, maxLength length => { rules with maxLength := some length }
  | .string, pattern p => { rules with regex := some p.source }
  | .string, unusablePattern source => { rules with regex := some source }
  | _, _ => rules

end Check

namespace Validator

def rootName : String := "root"

def itemName : String := "item"

/-- The rules of a field of a kind that a validator stands for. -/
def rulesOf (kind : FieldKind) (acceptsMissing : Bool) (checks : List Check) : Rules :=
  checks.foldl (Check.addTo kind) { required := if acceptsMissing then some false else none }

mutual
/-- The field of the given name that a validator stands for. -/
def toField (name : String) : Validator → Field
  | ⟨kind, optional, checks, _, default, description⟩ =>
    let base : Field :=
      match kind with
      | .object fields _ =>
        { name := name, kind := .object, children := some (toFields fields) }
      | .array item =>
        { name := name, kind := .array, children := some [toField itemName item] }
      | .enumeration members => { name := name, kind := .enumeration, members := some members }
      | .number _ => { name := name, kind := .number }
      | .boolean => { name := name, kind := .boolean }
      | .date _ => { name := name, kind := .date }
      | .string => { name := name, kind := .string }
      | .any => { name := name, kind := .string }
      | .union _ _ => { name := name, kind := .string }
    let rules := rulesOf base.kind (optional || default.isSome) checks
    { base with
      rules := if rules.isEmpty then none else some rules
      description := description }

def toFields : List (String × Validator) → List Field
  | [] => []
  | (name, v) :: rest => toField name v :: toFields rest
end

/-- The field that a validator stands for. -/
def introspect (v : Validator) (name : Option String) : Field := v.toField (name.getD rootName)

end Validator

end ToolSchema
