/-!
# Paths into a document

A path leads from the root of a document to one of its parts, through keys of objects and places of
arrays. It is written with dots and brackets, `user.tags[2].label`, and the empty path as `(root)`.
-/

namespace ToolSchema

inductive Segment where
  | key (name : String)
  | index (place : Nat)
deriving DecidableEq

structure FieldPath where
  segments : List Segment
deriving DecidableEq

namespace FieldPath

def root : FieldPath := ⟨[]⟩

def push (path : FieldPath) (segment : Segment) : FieldPath := ⟨path.segments ++ [segment]⟩

/-- One step back; the root stays the root. -/
def pop (path : FieldPath) : FieldPath := ⟨path.segments.dropLast⟩

def key (path : FieldPath) (name : String) : FieldPath := path.push (.key name)

def index (path : FieldPath) (place : Nat) : FieldPath := path.push (.index place)

def isRoot (path : FieldPath) : Bool := path.segments.isEmpty

/-- How a step is written behind another one. -/
def segmentText : Segment → String
  | .key name => "." ++ name
  | .index place => "[" ++ toString place ++ "]"

/-- The written path. Only a key that comes first has no dot. -/
def render (path : FieldPath) : String :=
  match path.segments with
  | [] => "(root)"
  | .key name :: rest => name ++ String.join (rest.map segmentText)
  | segments => String.join (segments.map segmentText)

end FieldPath

end ToolSchema
