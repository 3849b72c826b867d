import ToolSchema.Json.Reader
import ToolSchema.Json.Printer
import ToolSchema.Text.Escape
import ToolSchema.Moment.Reader

/-!
# Decoding documents

A decoder walks a marked document in reading order and gives a typed value or the first thing that
is wrong, with the steps that lead to it. The same decoders serve documents that were text and
documents that were not; only the former have a byte to report, and only in them can a key come
twice.
-/

namespace ToolSchema

/-- One step from a document to a part that is being decoded. -/
inductive Step where
  | key (text : String)
  | index (place : Nat)
  | unknown
deriving DecidableEq

namespace Found

def render : Found → String
  | null => "null"
  | bool value => "boolean `" ++ (if value then "true" else "false") ++ "`"
  | number (.integer n _) => "integer `" ++ toString n ++ "`"
  | number (.float x) => "floating point `" ++ Numeral.document x ++ "`"
  | string value => "string " ++ Text.debug value
  | sequence => "sequence"
  | map => "map"

end Found

/-- Why a document could not be decoded. -/
inductive Misfit where
  | fault (fault : Fault)
  | invalidType (found : Found) (expected : String)
  | invalidValue (found : Found) (expected : String)
  | invalidLength (length : Nat) (expected : String)
  | unknownVariant (name : String) (variants : List String)
  | missingMember (name : String)
  | duplicateMember (name : String)
  | moment (fault : MomentFault)
deriving DecidableEq

namespace Misfit

def alternatives (variants : List String) : String :=
  match variants.map fun v ↦ "`" ++ v ++ "`" with
  | [a] => a
  | [a, b] => a ++ " or " ++ b
  | all => "one of " ++ String.intercalate ", " all

def message : Misfit → String
  | fault f => f.message
  | invalidType found expected => "invalid type: " ++ found.render ++ ", expected " ++ expected
  | invalidValue found expected => "invalid value: " ++ found.render ++ ", expected " ++ expected
  | invalidLength length expected =>
    "invalid length " ++ toString length ++ ", expected " ++ expected
  | unknownVariant name variants =>
    "unknown variant `" ++ name ++ "`, expected " ++ alternatives variants
  | missingMember name => "missing field `" ++ name ++ "`"
  | duplicateMember name => "duplicate field `" ++ name ++ "`"
  | moment f => f.message

end Misfit

/-- A decoding error: the steps to the part, what is wrong, and the byte if the part was text. -/
structure DecodeError where
  steps : List Step
  misfit : Misfit
  offset : Option Nat
deriving DecidableEq

namespace DecodeError

def here (misfit : Misfit) (offset : Option Nat) : DecodeError := ⟨[], misfit, offset⟩

def ofFlaw (flaw : Flaw) : DecodeError := ⟨[], .fault flaw.fault, some flaw.offset⟩

/-- The error seen from one step further out. -/
def under (step : Step) (error : DecodeError) : DecodeError :=
  { error with steps := step :: error.steps }

def stepText : Step → String
  | .key text => text
  | .index place => "[" ++ toString place ++ "]"
  | .unknown => "?"

/-- Further steps: those into a list have no dot. -/
def tailText : Step → String
  | .index place => "[" ++ toString place ++ "]"
  | step => "." ++ stepText step

/-- The written path; a lone dot stands for the document itself. -/
def pathText (error : DecodeError) : String :=
  match error.steps with
  | [] => "."
  | step :: rest => stepText step ++ String.join (rest.map tailText)

/-- The text of the error; line and column follow if the document was text. -/
def message (source : Json.Source) (error : DecodeError) : String :=
  match error.offset with
  | none => error.misfit.message
  | some offset =>
    let (line, column) := source.position offset
    error.misfit.message ++ " at line " ++ toString line ++ " column " ++ toString column

end DecodeError

abbrev Decoded (α : Type) := Except DecodeError α

def Decoded.under {α : Type} (step : Step) (decoded : Decoded α) : Decoded α :=
  decoded.mapError (DecodeError.under step)

namespace Ending

/-- Accepts a list or object that ends at its bracket. -/
def close : Ending → Decoded Unit
  | closed => .ok ()
  | cut flaw => .error (.ofFlaw flaw)
  | cutAtKey flaw => .error ((DecodeError.ofFlaw flaw).under .unknown)
  | cutAtValue flaw _ => .error ((DecodeError.ofFlaw flaw).under .unknown)
  | cutAfterKey _ flaw => .error (.ofFlaw flaw)

end Ending

namespace Marked

def mismatchOf (expected : String) : Except Flaw (Found × Option Nat) → DecodeError
  | .ok (found, offset) => .here (.invalidType found expected) offset
  | .error flaw => .ofFlaw flaw

def mismatch (expected : String) (m : Marked) : DecodeError := mismatchOf expected m.found

/-- A container that is nested too deep to be opened. -/
def nestedTooDeep (start : Nat) : DecodeError := .ofFlaw ⟨.tooDeep, start + 1⟩

def decodeText : Marked → Decoded String
  | string t _ => .ok t
  | m => .error (m.mismatch "a string")

def decodeBool : Marked → Decoded Bool
  | bool b _ => .ok b
  | m => .error (m.mismatch "a boolean")

def decodeDouble : Marked → Decoded Double
  | number n _ => .ok (.finite n.toBinary64)
  | m => .error (m.mismatch "f64")

/-- Decodes a length: an integer that is not negative. -/
def decodeLength : Marked → Decoded UInt64
  | number (.integer n exact) s =>
    if 0 ≤ n then .ok (UInt64.ofNat n.toNat)
    else .error (.here (.invalidValue (.number (.integer n exact)) "usize") (s.map Span.stop))
  | m => .error (m.mismatch "usize")

/-- Decodes a value that may be null. -/
def decodeOption {α : Type} (decode : Marked → Decoded α) : Marked → Decoded (Option α)
  | null _ => .ok none
  | m => (decode m).map some

def decodeItems {α : Type} (decode : Marked → Decoded α) : Nat → List Marked → Decoded (List α)
  | _, [] => .ok []
  | place, item :: rest => do
    let first ← (decode item).under (.index place)
    let others ← decodeItems decode (place + 1) rest
    .ok (first :: others)

def decodeList {α : Type} (decode : Marked → Decoded α) : Marked → Decoded (List α)
  | array items ending _ => do
    let values ← decodeItems decode 0 items
    ending.close
    .ok values
  | tooDeep .array start => .error (nestedTooDeep start)
  | m => .error (m.mismatch "a sequence")

def decodeTexts : Marked → Decoded (List String) := decodeList decodeText

mutual
/-- Decodes any document. Of two values under one key the last is kept, in the first one's place. -/
def decodeAny : Marked → Decoded Json
  | null _ => .ok .null
  | bool b _ => .ok (.bool b)
  | number n _ => .ok (.number n)
  | string t _ => .ok (.string t)
  | array items ending _ => do
    let values ← decodeAnyItems 0 items
    ending.close
    .ok (.array values)
  | object members ending _ => do
    let pairs ← decodeAnyMembers members
    ending.close
    .ok (.object (collect pairs))
  | broken flaw _ => .error (.ofFlaw flaw)
  | tooDeep _ start => .error (nestedTooDeep start)

def decodeAnyItems : Nat → List Marked → Decoded (List Json)
  | _, [] => .ok []
  | place, item :: rest => do
    let first ← (decodeAny item).under (.index place)
    let others ← decodeAnyItems (place + 1) rest
    .ok (first :: others)

def decodeAnyMembers : List (Key × Option Flaw × Marked) → Decoded (List (String × Json))
  | [] => .ok []
  | (key, _, value) :: rest => do
    let first ← (decodeAny value).under (.key key.text)
    let others ← decodeAnyMembers rest
    .ok ((key.text, first) :: others)
end

/-! ## Choices -/

/-- Whether a fault can only arise inside a string. -/
def inString : Fault → Bool
  | .endInString => true
  | .invalidEscape => true
  | .controlCharacter => true
  | .loneSurrogate => true
  | .unfinishedSurrogate => true
  | .invalidCodePoint => true
  | _ => false

/-- Decodes the empty content of a variant that is written as an object. -/
def decodeUnit : Marked → Decoded Unit
  | null _ => .ok ()
  | m => .error (m.mismatch "unit")

/-- Decodes one of several named variants: its name, or an object whose only key is the name and
whose value is null. -/
def decodeVariant {α : Type} (resolve : String → Except Misfit α) : Marked → Decoded α
  | string name s => (resolve name).mapError fun misfit ↦ .here misfit (s.map Span.stop)
  | object members ending none =>
    match members with
    | [(key, _, value)] => do
      let variant ← (resolve key.text).mapError fun misfit ↦ .here misfit none
      (decodeUnit value).under (.key key.text)
      ending.close
      .ok variant
    | _ => .error (.here (.invalidValue .map "map with a single key") none)
  | object members ending (some span) =>
    match members, ending with
    | (key, _, value) :: rest, ending => do
      let variant ← (resolve key.text).mapError fun misfit ↦ .here misfit key.stop
      (decodeUnit value).under (.key key.text)
      match rest, ending with
      | [], .closed => .ok variant
      | [], .cutAtKey ⟨.endInObject, offset⟩ => .error (.ofFlaw ⟨.endInObject, offset⟩)
      | _, _ => .error (.ofFlaw ⟨.expectedValue, (value.span.map Span.next).getD 0⟩)
    | [], .cutAfterKey key flaw => do
      let _ ← (resolve key.text).mapError fun misfit ↦ .here misfit key.stop
      .error (.ofFlaw flaw)
    | [], .cutAtValue _ found => .error (mismatchOf "variant identifier" found)
    | [], .cutAtKey flaw =>
      .error (.ofFlaw (if flaw.fault = .endInObject then ⟨.endInValue, flaw.offset⟩ else flaw))
    | [], _ => .error (.ofFlaw ⟨.expectedValue, span.stop⟩)
  | tooDeep .object start => .error (nestedTooDeep start)
  | tooDeep _ start => .error (.ofFlaw ⟨.expectedValue, start + 1⟩)
  | broken flaw start =>
    .error (.ofFlaw (if flaw.offset = start || inString flaw.fault then flaw
      else ⟨.expectedValue, start + 1⟩))
  | m =>
    match m.span with
    | some span => .error (.ofFlaw ⟨.expectedValue, span.start + 1⟩)
    | none => .error (m.mismatch "string or map")

/-! ## Records -/

/-- Refuses a key that came before. -/
def unrepeated (seen : List String) (key : Key) : Decoded Unit :=
  if seen.contains key.text then .error (.here (.duplicateMember key.text) key.settled) else .ok ()

/-- The fault of a member that is passed over, if it cannot even be skipped. -/
def skip (key : Key) : Option Flaw → Decoded Unit
  | none => .ok ()
  | some flaw => .error ((DecodeError.ofFlaw flaw).under (.key key.text))

/-- Decodes the members of a record whose names are known and passes over the others. `set` decodes
a member into the draft of the record. -/
def decodeMembers {σ : Type} (names : List String) (set : String → Marked → σ → Decoded σ) :
    List String → σ → List (Key × Option Flaw × Marked) → Decoded (List String × σ)
  | seen, draft, [] => .ok (seen, draft)
  | seen, draft, (key, flaw, value) :: rest =>
    if names.contains key.text then do
      unrepeated seen key
      let draft ← (set key.text value draft).under (.key key.text)
      decodeMembers names set (key.text :: seen) draft rest
    else do
      skip key flaw
      decodeMembers names set seen draft rest

/-- Ends a record that was written as an object. -/
def closeRecord (names seen : List String) : Ending → Decoded Unit
  | .cutAfterKey key flaw => do
    if names.contains key.text then unrepeated seen key
    .error (.ofFlaw flaw)
  | ending => ending.close

/-- Decodes the members of a record that was written as a list, in the order of their names. -/
def decodePlaces {σ : Type} (set : String → Marked → σ → Decoded σ) :
    Nat → List String → σ → List Marked → Decoded σ
  | place, name :: names, draft, item :: rest => do
    let draft ← (set name item draft).under (.index place)
    decodePlaces set (place + 1) names draft rest
  | _, _, draft, _ => .ok draft

/-- Ends a record of `arity` members that was written as a list. -/
def closePlaces (arity : Nat) (items : List Marked) (ending : Ending) (span : Option Span) :
    Decoded Unit :=
  match items[arity]?, span with
  | some _, none =>
    .error (.here (.invalidLength items.length "fewer elements in array") none)
  | some extra, some _ =>
    .error (.ofFlaw ⟨.trailingCharacters, (extra.span.map Span.start).getD 0 + 1⟩)
  | none, _ =>
    match ending with
    | .cut flaw =>
      if items.length = arity && (flaw.fault = .expectedListEnd || flaw.fault = .endInValue) then
        .error (.ofFlaw ⟨.trailingCharacters, flaw.offset⟩)
      else .error (.ofFlaw flaw)
    | ending => ending.close

/-- The error of a record that lacks a member. -/
def absent (name : String) (span : Option Span) : DecodeError :=
  .here (.missingMember name) (span.map Span.stop)

/-- The error of a list that is too short for its record. -/
def shortRecord (length arity : Nat) (type : String) (span : Option Span) : DecodeError :=
  .here (.invalidLength length (type ++ " with " ++ toString arity ++ " elements"))
    (span.map Span.stop)

/-- Decodes a record that needs none of its members. -/
def decodeRecord {σ : Type} (type : String) (names : List String)
    (set : String → Marked → σ → Decoded σ) (draft : σ) : Marked → Decoded σ
  | object members ending _ => do
    let (seen, draft) ← decodeMembers names set [] draft members
    closeRecord names seen ending
    .ok draft
  | array items ending span => do
    let draft ← decodePlaces set 0 names draft items
    closePlaces names.length items ending span
    .ok draft
  | tooDeep _ start => .error (nestedTooDeep start)
  | m => .error (m.mismatch type)

end Marked

namespace Json

/-- Reads a text that holds one document and nothing else but blanks. -/
def parse (source : Source) : Except DecodeError Json := do
  let marked := source.read
  let value ← marked.decodeAny
  let stop := (marked.span.map Span.next).getD 0
  match source.peek stop with
  | none => .ok value
  | some _ => .error (.ofFlaw (source.ahead .trailingCharacters stop))

end Json

end ToolSchema
