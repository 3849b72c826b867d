import ToolSchema.Json.Value

/-!
# Pointers into documents

A pointer is a text of parts, each behind a slash: keys of objects and places of lists. In a part
`~1` stands for a slash and, after that, `~0` for a tilde.
-/

namespace ToolSchema.Json

def splitSlashes : List Char → List (List Char)
  | [] => [[]]
  | '/' :: rest => [] :: splitSlashes rest
  | c :: rest =>
    match splitSlashes rest with
    | [] => [[c]]
    | part :: parts => (c :: part) :: parts

/-- Puts a character in place of a tilde and a digit. -/
def unescape (digit stands : Char) : List Char → List Char
  | [] => []
  | '~' :: d :: rest =>
    if d = digit then stands :: unescape digit stands rest
    else '~' :: unescape digit stands (d :: rest)
  | c :: rest => c :: unescape digit stands rest

/-- The place that a part stands for: digits without a needless zero. -/
def place? (part : List Char) : Option Nat :=
  if part.isEmpty || !part.all Char.isDigit then none
  else if part.head? = some '0' && part.length ≠ 1 then none
  else some (part.foldl (fun n c ↦ 10 * n + (c.toNat - '0'.toNat)) 0)

def child? (part : List Char) : Json → Option Json
  | object members => lookup (String.ofList part) members
  | array items => (place? part).bind fun place ↦ items[place]?
  | _ => none

/-- The part of a document that a pointer selects. The empty pointer selects the whole document. -/
def select? (pointer : String) (document : Json) : Option Json :=
  match splitSlashes pointer.toList with
  | [[]] => some document
  | [] :: parts =>
    (parts.map fun part ↦ unescape '0' '~' (unescape '1' '/' part)).foldlM
      (fun target part ↦ child? part target) document
  | _ => none

end ToolSchema.Json
