import ToolSchema.Pattern.Reader
import ToolSchema.Pattern.Backtrack

/-!
# Patterns

A pattern is a text that reads as a pattern expression. It matches a text if the expression matches
some part of it. Expressions without memory are matched by sets of places, in polynomial time; the
others by backtracking within a budget, and a match that the budget does not reach is none.

The size of an expression has no limit. An engine that compiles patterns and limits what they grow
to refuses some that are read here, such as the thousand word characters of `\w{1000}`.
-/

namespace ToolSchema

/-- A pattern: its source, what the source reads as, and the groups that are referred to. -/
structure Pattern where
  source : String
  expr : Pattern.Expr
  referred : List Nat
  reads : Pattern.read? source = some (expr, referred)

namespace Pattern

/-- The pattern of a source, unless the source is malformed. -/
def ofSource? (source : String) : Option Pattern :=
  match h : read? source with
  | some (expr, referred) => some ⟨source, expr, referred, h⟩
  | none => none

/-- The number of returns to an alternative that one search may take. -/
def budget : Nat := 1000000

/-- Whether the pattern matches some part of a text. -/
def matchesText (pattern : Pattern) (text : String) : Bool :=
  let subject := Subject.ofString text
  if pattern.expr.hasMemory then
    let chars := subject.chars.toArray
    match pattern.expr.search subject chars pattern.referred subject.places 0 budget with
    | .found _ _ _ => true
    | _ => false
  else (pattern.expr.image subject).apply subject.everywhere ≠ 0

/-- The pattern of a source has that source. -/
theorem source_of_ofSource? {s : String} {p : Pattern} (h : ofSource? s = some p) :
    p.source = s := by
  unfold ofSource? at h
  split at h
  · exact (Option.some.inj h) ▸ rfl
  · simp at h

end Pattern

end ToolSchema
