import ToolSchema.Unicode.Printable

/-!
# Quoted diagnostics

A text in a diagnostic stands between quotes. The quote and the backslash have a backslash before
them, three blanks and NUL are written by letter, and every other character that does not print by
itself is written by its number.
-/

namespace ToolSchema.Text

/-- The characters that stand for one character in a diagnostic. -/
def debugChar (c : Char) : List Char :=
  if c = '"' then ['\\', '"']
  else if c = '\\' then ['\\', '\\']
  else if c = '\n' then ['\\', 'n']
  else if c = '\r' then ['\\', 'r']
  else if c = '\t' then ['\\', 't']
  else if c.toNat = 0 then ['\\', '0']
  else if Unicode.isPrintable c then [c]
  else '\\' :: 'u' :: '\x7b' :: Nat.toDigits 16 c.toNat ++ ['\x7d']

/-- A text as diagnostics quote it. -/
def debug (s : String) : String :=
  String.ofList ('"' :: s.toList.flatMap debugChar ++ ['"'])

end ToolSchema.Text
