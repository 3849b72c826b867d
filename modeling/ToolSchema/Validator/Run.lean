import ToolSchema.Validator
import ToolSchema.Coercion
import ToolSchema.Issue
import ToolSchema.Moment.Printer

/-!
# Validation

Validation walks a value along a validator. It gives the value in its final form, with texts coerced
and defaults filled in, or the issues: all of them, those of an object in the order of its declared
fields, those of a list in the order of its items. Checks are made on a value that has the right
kind, and refinements only on a value without issues.
-/

namespace ToolSchema

/-- How far a walk has come: the path to the value at hand, and the issues found so far. -/
structure Walk where
  path : FieldPath
  issues : List Issue

namespace Walk

def start : Walk := ⟨.root, []⟩

def enter (walk : Walk) (segment : Segment) : Walk := { walk with path := walk.path.push segment }

def leave (walk : Walk) : Walk := { walk with path := walk.path.pop }

/-- Finds an issue at the value at hand. -/
def report (walk : Walk) (reason : Reason) : Walk :=
  { walk with issues := walk.issues ++ [⟨walk.path, reason⟩] }

/-- Whether no issue was found since an earlier point of the walk. -/
def quietSince (walk earlier : Walk) : Bool := walk.issues.length == earlier.issues.length

end Walk

namespace Check

/-- Why a value fails a check, if it does. -/
def failure? (value : Json) : Check → Option Reason
  | min bound =>
    (value.number?.filter fun x ↦ (Double.finite x).lt bound).map fun _ ↦ .belowMinimum bound
  | max bound =>
    (value.number?.filter fun x ↦ bound.lt (Double.finite x)).map fun _ ↦ .aboveMaximum bound
  | minLength length =>
    (value.text?.filter fun s ↦ s.length < length.toNat).map fun _ ↦ .tooShort length.toNat
  | maxLength length =>
    (value.text?.filter fun s ↦ length.toNat < s.length).map fun _ ↦ .tooLong length.toNat
  | pattern p => (value.text?.filter fun s ↦ !p.matchesText s).map fun _ ↦ .noMatch p.source
  | unusablePattern source => value.text?.map fun _ ↦ .unusablePattern source

def apply (value : Json) (walk : Walk) (check : Check) : Walk :=
  match check.failure? value with
  | some reason => walk.report reason
  | none => walk

end Check

def Refinement.apply (value : Json) (walk : Walk) (refinement : Refinement) : Walk :=
  if refinement.predicate value then walk else walk.report (.refinement refinement.name)

namespace Validator

/-- Walks the items of a list, from a place on. The items come out only if all of them do. -/
def runItems (item : Json → Walk → Option Json × Walk) :
    Nat → List Json → Walk → Option (List Json) × Walk
  | _, [], walk => (some [], walk)
  | place, value :: rest, walk =>
    let (first, walk) := item value (walk.enter (.index place))
    let (others, walk) := runItems item (place + 1) rest walk.leave
    (first.bind fun v ↦ others.map fun vs ↦ v :: vs, walk)

/-- Deals with the members of an object for which no field is declared. -/
def runUnknown (policy : UnknownKeys) (declared : List String) :
    List (String × Json) → Walk → List (String × Json) × Walk
  | [], walk => ([], walk)
  | (key, value) :: rest, walk =>
    if declared.contains key then runUnknown policy declared rest walk
    else
      match policy with
      | .passthrough =>
        let (others, walk) := runUnknown policy declared rest walk
        ((key, value) :: others, walk)
      | .strip => runUnknown policy declared rest walk
      | .reject =>
        let walk := ((walk.enter (.key key)).report .unrecognizedKey).leave
        runUnknown policy declared rest walk

/-- Makes the checks, and the refinements if there was no issue; the value comes out if there was
none in the end. -/
def conclude (checks : List Check) (refinements : List Refinement) (value : Json)
    (earlier walk : Walk) : Option Json × Walk :=
  let walk := checks.foldl (Check.apply value) walk
  let walk :=
    if walk.quietSince earlier then refinements.foldl (Refinement.apply value) walk else walk
  (if walk.quietSince earlier then some value else none, walk)

def mismatch (expected : String) (value : Json) (walk : Walk) : Option Json × Walk :=
  (none, walk.report (.mismatch expected value.type))

mutual
/-- Walks a value that may be missing. A value that is missing is the default, if there is one. -/
def run : Validator → Option Json → Walk → Option Json × Walk
  | ⟨kind, optional, checks, refinements, default, _⟩, value?, walk =>
    match value?.or default with
    | none => (none, if optional then walk else walk.report .missing)
    | some value =>
      match parse kind value walk with
      | (none, next) => (none, next)
      | (some parsed, next) => conclude checks refinements parsed walk next

/-- Walks a value along a kind: what it must be before the checks are made. -/
def parse : ValidatorKind Validator → Json → Walk → Option Json × Walk
  | .any, value, walk => (some value, walk)
  | .string, value, walk =>
    match value with
    | .string _ => (some value, walk)
    | _ => mismatch "string" value walk
  | .number coerce, value, walk =>
    match value.coerceNumber? coerce with
    | some number => (some number, walk)
    | none => mismatch "number" value walk
  | .boolean, value, walk =>
    match value with
    | .bool _ => (some value, walk)
    | _ => mismatch "boolean" value walk
  | .date coerce, value, walk =>
    match value.moment? coerce with
    | some moment => (some (.string moment.render), walk)
    | none => mismatch "date" value walk
  | .enumeration members, value, walk =>
    match value with
    | .string text =>
      if members.contains text then (some value, walk)
      else (none, walk.report (.notMember members text))
    | _ => mismatch "string" value walk
  | .array item, value, walk =>
    match value with
    | .array values =>
      let (items, walk) := runItems (fun v w ↦ run item (some v) w) 0 values walk
      (items.map .array, walk)
    | _ => mismatch "array" value walk
  | .object fields policy, value, walk =>
    match value with
    | .object members =>
      let (known, next) := runFields fields members walk
      let (others, next) := runUnknown policy (fields.map Prod.fst) members next
      (if next.quietSince walk then some (.object (known ++ others)) else none, next)
    | _ => mismatch "object" value walk
  | .union first second, value, walk =>
    let aside : Walk := { walk with issues := [] }
    match run first (some value) aside with
    | (some parsed, _) => (some parsed, walk)
    | (none, _) =>
      match run second (some value) aside with
      | (some parsed, _) => (some parsed, walk)
      | (none, _) => (none, walk.report .noAlternative)

/-- Walks the declared fields of an object and gives the members that came out. -/
def runFields : List (String × Validator) → List (String × Json) → Walk →
    List (String × Json) × Walk
  | [], _, walk => ([], walk)
  | (key, field) :: rest, members, walk =>
    let (value, walk) := run field (lookup key members) (walk.enter (.key key))
    let (others, walk) := runFields rest members walk.leave
    (value.toList.map (fun v ↦ (key, v)) ++ others, walk)
end

/-- Validates a value that may be missing. Nothing comes out where nothing is needed. -/
def validateOptional (v : Validator) (value? : Option Json) : Except Rejection (Option Json) :=
  match v.run value? .start with
  | (value?, ⟨_, []⟩) => .ok value?
  | (_, ⟨_, issues⟩) => .error ⟨issues⟩

def validate (v : Validator) (value : Json) : Except Rejection Json :=
  match v.validateOptional (some value) with
  | .ok (some out) => .ok out
  | .ok none => .error (.single .root .missing)
  | .error rejection => .error rejection

def accepts (v : Validator) (value : Json) : Bool := (v.validate value).isOk

end Validator

end ToolSchema
