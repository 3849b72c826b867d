import ToolSchema.Pattern.CharSet

/-!
# Sets in brackets

Between brackets stand characters, ranges, named sets and further brackets, and sets may be combined
by three operators that bind less tightly than standing side by side. The escapes have been read
before: what stood behind a backslash is no operator and no bracket.
-/

namespace ToolSchema.Pattern

/-- What stands between brackets: a character that may be an operator, one that cannot be, a set
that could stand at the end of a range, or a set that could not. -/
inductive Token where
  | plain (c : Char)
  | escaped (c : Char)
  | set (set : CharSet)
  | nested (set : CharSet)

inductive SetOperator where
  | intersection | difference | symmetric

namespace SetOperator

def apply : SetOperator → CharSet → CharSet → CharSet
  | intersection => .intersection
  | difference => .difference
  | symmetric => .symmetric

/-- The operator that is written by doubling a character. -/
def ofDoubled? : Char → Option SetOperator
  | '&' => some intersection
  | '-' => some difference
  | '~' => some symmetric
  | _ => none

end SetOperator

namespace Brackets

/-- A set under construction: the operand and operator on the left, and what has been united on
the right. -/
structure Draft where
  left : Option (CharSet × SetOperator) := none
  right : CharSet := .empty

namespace Draft

def add (draft : Draft) (set : CharSet) : Draft := { draft with right := .union draft.right set }

def value (fold : Bool) (draft : Draft) : CharSet :=
  match draft.left with
  | none => draft.right
  | some (left, operator) =>
    operator.apply (left.adjust fold false) (draft.right.adjust fold false)

/-- Goes on behind an operator. -/
def combine (fold : Bool) (operator : SetOperator) (draft : Draft) : Draft :=
  ⟨some (draft.value fold, operator), .empty⟩

end Draft

/-- The characters of leading plain tokens up to a colon. -/
def nameOf : List Token → List Char × List Token
  | .plain ':' :: rest => ([], .plain ':' :: rest)
  | .plain c :: rest => let (name, rest) := nameOf rest; (c :: name, rest)
  | rest => ([], rest)

/-- A named set between colons, behind its opening bracket. -/
def named? (fold : Bool) : List Token → Option (CharSet × List Token)
  | .plain ':' :: rest =>
    let (negate, rest) := match rest with
      | .plain '^' :: rest => (true, rest)
      | _ => (false, rest)
    match nameOf rest with
    | (name, .plain ':' :: .plain ']' :: rest) =>
      (CharSet.named? (String.ofList name)).map fun set ↦ (set.adjust fold negate, rest)
    | _ => none
  | _ => none

/-- The character that could start or end a range. -/
def endpoint? : Token → Option Char
  | .plain c => some c
  | .escaped c => some c
  | _ => none

def item : Token → CharSet
  | .plain c => .single c
  | .escaped c => .single c
  | .set set => set
  | .nested set => set

/-- Whether a plain hyphen is followed by the end of a range. -/
def opensRange : List Token → Bool
  | .plain '-' :: .plain ']' :: _ => false
  | .plain '-' :: .plain '-' :: _ => false
  | .plain '-' :: _ => true
  | _ => false

/-- A range or a lone item. A set cannot start or end a range. -/
def range? (first : Token) (rest : List Token) : Option (CharSet × List Token) :=
  match first with
  | .nested set => some (set, rest)
  | _ =>
    if opensRange rest then
      match rest.drop 1 with
      | last :: rest => do
        let low ← endpoint? first
        let high ← endpoint? last
        if low ≤ high then some (.range low high, rest) else none
      | [] => none
    else some (item first, rest)

/-- Hyphens right behind an opening bracket stand for themselves. -/
def leading : List Token → Draft → Draft × List Token
  | .plain '-' :: rest, draft => leading rest (draft.add (.single '-'))
  | rest, draft => (draft, rest)

mutual
def openSet (fold : Bool) : Nat → List Token → Option (CharSet × List Token)
  | 0, _ => none
  | fuel + 1, tokens => do
    let (negate, tokens) := match tokens with
      | .plain '^' :: rest => (true, rest)
      | _ => (false, tokens)
    let (draft, tokens) := match tokens with
      | .plain ']' :: rest => (Draft.add {} (.single ']'), rest)
      | _ => leading tokens {}
    let (set, rest) ← items fold fuel draft tokens
    some (set.adjust fold negate, rest)

def items (fold : Bool) : Nat → Draft → List Token → Option (CharSet × List Token)
  | 0, _, _ => none
  | _, _, [] => none
  | fuel + 1, draft, .plain '[' :: rest =>
    match named? fold rest with
    | some (set, rest) => items fold fuel (draft.add set) rest
    | none => do
      let (set, rest) ← openSet fold fuel rest
      items fold fuel (draft.add set) rest
  | _ + 1, draft, .plain ']' :: rest => some (draft.value fold, rest)
  | fuel + 1, draft, first :: rest =>
    let operator? := match first, rest with
      | .plain a, .plain b :: _ => if a = b then SetOperator.ofDoubled? a else none
      | _, _ => none
    match operator? with
    | some operator => items fold fuel (draft.combine fold operator) (rest.drop 1)
    | none => do
      let (set, rest) ← range? first rest
      items fold fuel (draft.add set) rest
end

/-- Reads a set from the tokens behind its opening bracket up to the closing one. -/
def read? (fold : Bool) (tokens : List Token) : Option CharSet :=
  match openSet fold (2 * tokens.length + 2) tokens with
  | some (set, []) => some set
  | _ => none

end Brackets

end ToolSchema.Pattern
