import ToolSchema.Json.Value
import ToolSchema.Number.Numeral
import ToolSchema.Text.Blank
import ToolSchema.Moment.Reader

/-!
# Coercion

Numbers and dates may arrive in other forms. A number may come as text, blanks at its ends aside. A
date comes as a full moment with an offset; where coercion is on, also as a moment without offset,
as a plain date, or as milliseconds since 1970.
-/

namespace ToolSchema

/-- The number that a document stands for. A number stands for itself. -/
def Json.coerceNumber? (coerce : Bool) : Json → Option Json
  | .number n => some (.number n)
  | .string text =>
    if coerce then
      ((Numeral.read? (Text.trim text)).bind Double.finite?).map fun x ↦ .number (.literal x)
    else none
  | _ => none

/-- The moment that a text stands for. -/
def Moment.ofText? (coerce : Bool) (text : String) : Option Moment :=
  let cs := Text.trimChars text.toList
  let full := (Moment.readStrict cs).toOption
  if coerce then
    (full.or (Moment.readLocal cs).toOption).or (Moment.readDate cs).toOption
  else full

/-- The moment that a document stands for. -/
def Json.moment? (coerce : Bool) : Json → Option Moment
  | .string text => Moment.ofText? coerce text
  | .number n => if coerce then n.int64?.bind Moment.ofMilliseconds? else none
  | _ => none

end ToolSchema
