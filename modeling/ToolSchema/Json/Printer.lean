import ToolSchema.Json.Value
import ToolSchema.Number.Numeral

/-!
# Writing documents

The compact text has no blanks. The indented text puts every item and member on a line of its own,
two spaces deeper than its container, and leaves empty containers on one line. Inside strings only
the quote, the backslash and the control characters below U+0020 are escaped.
-/

namespace ToolSchema.Json

def hexDigit (n : Nat) : Char :=
  if n < 10 then Char.ofNat ('0'.toNat + n) else Char.ofNat ('a'.toNat + (n - 10))

/-- How one character stands inside a quoted text. -/
def escapeChar (c : Char) : List Char :=
  if c = '"' then ['\\', '"']
  else if c = '\\' then ['\\', '\\']
  else if c = '\n' then ['\\', 'n']
  else if c = '\r' then ['\\', 'r']
  else if c = '\t' then ['\\', 't']
  else if c.toNat = 8 then ['\\', 'b']
  else if c.toNat = 12 then ['\\', 'f']
  else if c.toNat < 32 then
    ['\\', 'u', '0', '0', hexDigit (c.toNat / 16), hexDigit (c.toNat % 16)]
  else [c]

def quotedChars (cs : List Char) : List Char := '"' :: cs.flatMap escapeChar ++ ['"']

/-- A text as a string document. -/
def quoted (s : String) : String := String.ofList (quotedChars s.toList)

def numeral : Number → String
  | .integer n _ => toString n
  | .float x => Numeral.document x

mutual
def compact : Json → String
  | null => "null"
  | bool true => "true"
  | bool false => "false"
  | number n => numeral n
  | string s => quoted s
  | array items => "[" ++ compactItems items ++ "]"
  | object members => "\x7b" ++ compactMembers members ++ "\x7d"

def compactItems : List Json → String
  | [] => ""
  | [item] => compact item
  | item :: rest => compact item ++ "," ++ compactItems rest

def compactMembers : List (String × Json) → String
  | [] => ""
  | [(key, value)] => quoted key ++ ":" ++ compact value
  | (key, value) :: rest => quoted key ++ ":" ++ compact value ++ "," ++ compactMembers rest
end

def indent (depth : Nat) : String := String.ofList (List.replicate (2 * depth) ' ')

mutual
/-- The indented text of a document that starts at the given depth. -/
def prettyAt (depth : Nat) : Json → String
  | null => "null"
  | bool true => "true"
  | bool false => "false"
  | number n => numeral n
  | string s => quoted s
  | array [] => "[]"
  | array (item :: rest) =>
    "[\n" ++ indent (depth + 1) ++ prettyAt (depth + 1) item ++ prettyItems (depth + 1) rest ++
      "\n" ++ indent depth ++ "]"
  | object [] => "\x7b\x7d"
  | object ((key, value) :: rest) =>
    "\x7b\n" ++ indent (depth + 1) ++ quoted key ++ ": " ++ prettyAt (depth + 1) value ++
      prettyMembers (depth + 1) rest ++ "\n" ++ indent depth ++ "\x7d"

def prettyItems (depth : Nat) : List Json → String
  | [] => ""
  | item :: rest => ",\n" ++ indent depth ++ prettyAt depth item ++ prettyItems depth rest

def prettyMembers (depth : Nat) : List (String × Json) → String
  | [] => ""
  | (key, value) :: rest =>
    ",\n" ++ indent depth ++ quoted key ++ ": " ++ prettyAt depth value ++ prettyMembers depth rest
end

def pretty (document : Json) : String := prettyAt 0 document

end ToolSchema.Json
