import ToolSchema.Json.Value

/-!
# Documents with marks

Reading a text gives a tree that remembers at which byte each part stands. Where the text is no
document the tree has a broken leaf, or a container that is cut short, and all that was read before
is still there: whoever walks the tree in reading order meets a wrong value or the fault, whichever
comes first. A document that was never text has no marks.
-/

namespace ToolSchema

inductive Fault where
  | endInValue | endInList | endInObject | endInString
  | expectedColon | expectedListEnd | expectedObjectEnd | expectedValue | expectedWord
  | invalidEscape | invalidNumber | numberOutOfRange | invalidCodePoint | controlCharacter
  | keyNotString | loneSurrogate | trailingComma | trailingCharacters | unfinishedSurrogate
  | tooDeep
deriving DecidableEq

namespace Fault

def message : Fault → String
  | endInValue => "EOF while parsing a value"
  | endInList => "EOF while parsing a list"
  | endInObject => "EOF while parsing an object"
  | endInString => "EOF while parsing a string"
  | expectedColon => "expected `:`"
  | expectedListEnd => "expected `,` or `]`"
  | expectedObjectEnd => "expected `,` or `\x7d`"
  | expectedValue => "expected value"
  | expectedWord => "expected ident"
  | invalidEscape => "invalid escape"
  | invalidNumber => "invalid number"
  | numberOutOfRange => "number out of range"
  | invalidCodePoint => "invalid unicode code point"
  | controlCharacter => "control character (\\u0000-\\u001F) found while parsing a string"
  | keyNotString => "key must be a string"
  | loneSurrogate => "lone leading surrogate in hex escape"
  | trailingComma => "trailing comma"
  | trailingCharacters => "trailing characters"
  | unfinishedSurrogate => "unexpected end of hex escape"
  | tooDeep => "recursion limit exceeded"

end Fault

/-- A fault and the byte at which it is reported. -/
structure Flaw where
  fault : Fault
  offset : Nat

/-- Where a value stands in a text: its first byte, the byte after it, and the next byte that is
not blank. -/
structure Span where
  start : Nat
  stop : Nat
  next : Nat

/-- A key with the byte after its quote and the byte after what may follow it: blanks, and a
bracket that closes the object. -/
structure Key where
  text : String
  stop : Option Nat
  settled : Option Nat

/-- What stands in a place, as errors name it. -/
inductive Found where
  | null
  | bool (value : Bool)
  | number (value : Number)
  | string (value : String)
  | sequence
  | map
deriving DecidableEq

/-- How a list or an object ends: at its bracket; where a further item should be; where a key should
be; where a key should be but something else was found; or after a key that no value follows. -/
inductive Ending where
  | closed
  | cut (flaw : Flaw)
  | cutAtKey (flaw : Flaw)
  | cutAtValue (flaw : Flaw) (found : Except Flaw (Found × Option Nat))
  | cutAfterKey (key : Key) (flaw : Flaw)

/-- A document with marks. A member also says what is wrong with its value as mere text to be
skipped; skipping minds neither nesting depth, nor number range, nor unpaired surrogates. -/
inductive Marked where
  | null (span : Option Span)
  | bool (value : Bool) (span : Option Span)
  | number (value : Number) (span : Option Span)
  | string (value : String) (span : Option Span)
  | array (items : List Marked) (ending : Ending) (span : Option Span)
  | object (members : List (Key × Option Flaw × Marked)) (ending : Ending) (span : Option Span)
  | broken (flaw : Flaw) (start : Nat)
  | tooDeep (type : JsonType) (start : Nat)

namespace Marked

def span : Marked → Option Span
  | null s => s
  | bool _ s => s
  | number _ s => s
  | string _ s => s
  | array _ _ s => s
  | object _ _ s => s
  | broken _ start => some ⟨start, start, start⟩
  | tooDeep _ start => some ⟨start, start, start⟩

/-- What a value is, and the byte at which errors report it: that after a scalar, or the first one
of a container. -/
def found : Marked → Except Flaw (Found × Option Nat)
  | null s => .ok (.null, s.map Span.stop)
  | bool b s => .ok (.bool b, s.map Span.stop)
  | number n s => .ok (.number n, s.map Span.stop)
  | string t s => .ok (.string t, s.map Span.stop)
  | array _ _ s => .ok (.sequence, s.map Span.start)
  | object _ _ s => .ok (.map, s.map Span.start)
  | broken flaw _ => .error flaw
  | tooDeep .array start => .ok (.sequence, some start)
  | tooDeep _ start => .ok (.map, some start)

mutual
/-- Whether the text was read to the end of the value without a fault. -/
def isWhole : Marked → Bool
  | array items .closed _ => areWhole items
  | object members .closed _ => haveWhole members
  | array _ _ _ => false
  | object _ _ _ => false
  | broken _ _ => false
  | tooDeep _ _ => false
  | _ => true

def areWhole : List Marked → Bool
  | [] => true
  | item :: rest => isWhole item && areWhole rest

def haveWhole : List (Key × Option Flaw × Marked) → Bool
  | [] => true
  | (_, _, value) :: rest => isWhole value && haveWhole rest
end

mutual
/-- A document without marks. -/
def ofJson : Json → Marked
  | .null => null none
  | .bool b => bool b none
  | .number n => number n none
  | .string s => string s none
  | .array items => array (ofItems items) .closed none
  | .object members => object (ofMembers members) .closed none

def ofItems : List Json → List Marked
  | [] => []
  | item :: rest => ofJson item :: ofItems rest

def ofMembers : List (String × Json) → List (Key × Option Flaw × Marked)
  | [] => []
  | (key, value) :: rest => (⟨key, none, none⟩, none, ofJson value) :: ofMembers rest
end

end Marked

end ToolSchema
