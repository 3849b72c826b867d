import ToolSchema.Path
import ToolSchema.Json.Value
import ToolSchema.Number.Numeral

/-!
# Issues

An issue says at which path a value was refused and why. A rejection is a list of issues; its text
has them in order, parted by semicolons.
-/

namespace ToolSchema

inductive Reason where
  | mismatch (expected : String) (received : JsonType)
  | notMember (members : List String) (received : String)
  | missing
  | unrecognizedKey
  | noAlternative
  | refinement (name : String)
  | belowMinimum (bound : Double)
  | aboveMaximum (bound : Double)
  | tooShort (length : Nat)
  | tooLong (length : Nat)
  | noMatch (source : String)
  | unusablePattern (source : String)
  | blankName
  | malformedName
  | blankDescription
  | stated (message : String)
deriving DecidableEq

namespace Reason

def message : Reason → String
  | mismatch expected received => "expected " ++ expected ++ ", received " ++ received.name
  | notMember members received =>
    "expected one of " ++ String.intercalate ", " (members.map fun m ↦ "'" ++ m ++ "'") ++
      ", received '" ++ received ++ "'"
  | missing => "required"
  | unrecognizedKey => "unrecognized key"
  | noAlternative => "value did not match either union alternative"
  | refinement name => "failed custom check `" ++ name ++ "`"
  | belowMinimum bound => "must be greater than or equal to " ++ Numeral.plain bound
  | aboveMaximum bound => "must be less than or equal to " ++ Numeral.plain bound
  | tooShort length => "must contain at least " ++ toString length ++ " character(s)"
  | tooLong length => "must contain at most " ++ toString length ++ " character(s)"
  | noMatch source => "does not match pattern /" ++ source ++ "/"
  | unusablePattern source => "pattern /" ++ source ++ "/ could not be compiled"
  | blankName => "Tool name is required"
  | malformedName => "Tool name can only contain letters, numbers, underscores, and hyphens"
  | blankDescription => "Description is required"
  | stated message => message

end Reason

/-- A refused value: where it stands and why it was refused. -/
structure Issue where
  path : FieldPath
  reason : Reason
deriving DecidableEq

def Issue.render (issue : Issue) : String := issue.path.render ++ ": " ++ issue.reason.message

/-- Why a document was rejected: its issues in order of discovery. -/
structure Rejection where
  issues : List Issue
deriving DecidableEq

namespace Rejection

def single (path : FieldPath) (reason : Reason) : Rejection := ⟨[⟨path, reason⟩]⟩

def hasIssueAt (rejection : Rejection) (path : FieldPath) : Bool :=
  rejection.issues.any fun issue ↦ issue.path = path

def render (rejection : Rejection) : String :=
  String.intercalate "; " (rejection.issues.map Issue.render)

end Rejection

end ToolSchema
