import ToolSchema.Json.Marked
import ToolSchema.Number.Scaled
import ToolSchema.Number.Numeral

/-!
# Reading documents

The reader works on the bytes of a text. It nests at most 127 lists and objects, and it reads one
value: what follows the value is left for the caller to judge. A value that is only to be skipped
is read by laxer rules. Faults are reported at the byte that the reader has reached, or one further
when it has only looked at that byte.
-/

namespace ToolSchema.Json

structure Source where
  bytes : ByteArray

namespace Source

def ofString (text : String) : Source := ⟨text.toUTF8⟩

def size (source : Source) : Nat := source.bytes.size

/-- The byte at an offset, as the character of that number. -/
def peek (source : Source) (offset : Nat) : Option Char :=
  if h : offset < source.bytes.size then some (Char.ofNat source.bytes[offset].toNat) else none

/-- A fault at a byte that was only looked at. -/
def ahead (source : Source) (fault : Fault) (offset : Nat) : Flaw :=
  ⟨fault, min source.size (offset + 1)⟩

/-- Line and column of an offset: lines from 1, columns in bytes since the line began. -/
def position (source : Source) (offset : Nat) : Nat × Nat :=
  let before := source.bytes.toList.take offset
  let lines := before.count 10
  (lines + 1, (before.reverse.takeWhile (· != 10)).length)

def skipBlanks (source : Source) : Nat → Nat → Nat
  | 0, offset => offset
  | fuel + 1, offset =>
    match source.peek offset with
    | some ' ' => skipBlanks source fuel (offset + 1)
    | some '\n' => skipBlanks source fuel (offset + 1)
    | some '\t' => skipBlanks source fuel (offset + 1)
    | some '\r' => skipBlanks source fuel (offset + 1)
    | _ => offset

def next (source : Source) (offset : Nat) : Nat := source.skipBlanks source.size offset

def digitsAt (source : Source) : Nat → Nat → List Char
  | 0, _ => []
  | fuel + 1, offset =>
    match source.peek offset with
    | some c => if c.isDigit then c :: digitsAt source fuel (offset + 1) else []
    | none => []

def digits (source : Source) (offset : Nat) : List Char := source.digitsAt source.size offset

/-- Reads the rest of a word such as `true`, letter by letter. -/
def word (source : Source) : List Char → Nat → Except Flaw Nat
  | [], offset => .ok offset
  | expected :: rest, offset =>
    match source.peek offset with
    | none => .error ⟨.endInValue, offset⟩
    | some c =>
      if c = expected then word source rest (offset + 1) else .error ⟨.expectedWord, offset + 1⟩

def hexQuad (source : Source) (offset : Nat) : Except Flaw Nat :=
  let value? (c : Char) : Option Nat :=
    if c.isDigit then some (c.toNat - '0'.toNat)
    else if 'a' ≤ c ∧ c ≤ 'f' then some (c.toNat - 'a'.toNat + 10)
    else if 'A' ≤ c ∧ c ≤ 'F' then some (c.toNat - 'A'.toNat + 10)
    else none
  match source.peek offset, source.peek (offset + 1), source.peek (offset + 2),
    source.peek (offset + 3) with
  | some a, some b, some c, some d =>
    match value? a, value? b, value? c, value? d with
    | some a, some b, some c, some d => .ok (((a * 16 + b) * 16 + c) * 16 + d)
    | _, _, _, _ => .error ⟨.invalidEscape, offset + 4⟩
  | _, _, _, _ => .error ⟨.endInString, source.size⟩

/-- The character that a letter after a backslash stands for. -/
def escaped? : Char → Option Char
  | '"' => some '"'
  | '\\' => some '\\'
  | '/' => some '/'
  | 'b' => some '\x08'
  | 'f' => some '\x0c'
  | 'n' => some '\n'
  | 'r' => some '\r'
  | 't' => some '\t'
  | _ => none

/-- An escape by number, from the offset of its first digit: a unit of sixteen bits, or a pair of
surrogates in two escapes. -/
def unicodeEscape (source : Source) (offset : Nat) : Except Flaw (Char × Nat) := do
  let unit ← source.hexQuad offset
  let offset := offset + 4
  if 0xDC00 ≤ unit ∧ unit ≤ 0xDFFF then .error ⟨.loneSurrogate, offset⟩
  else if unit < 0xD800 ∨ 0xDBFF < unit then .ok (Char.ofNat unit, offset)
  else
    match source.peek offset with
    | none => .error ⟨.endInString, offset⟩
    | some '\\' =>
      match source.peek (offset + 1) with
      | none => .error ⟨.endInString, offset + 1⟩
      | some 'u' =>
        let low ← source.hexQuad (offset + 2)
        if low < 0xDC00 ∨ 0xDFFF < low then .error ⟨.loneSurrogate, offset + 6⟩
        else .ok (Char.ofNat ((unit - 0xD800) * 1024 + (low - 0xDC00) + 0x10000), offset + 6)
      | some _ => .error ⟨.unfinishedSurrogate, offset + 2⟩
    | some _ => .error ⟨.unfinishedSurrogate, offset + 1⟩

/-- The bytes of a string up to its closing quote, from the byte after the opening one. -/
def stringBytes (source : Source) : Nat → Nat → ByteArray → Except Flaw (ByteArray × Nat)
  | 0, offset, _ => .error ⟨.endInString, offset⟩
  | fuel + 1, offset, read =>
    match source.peek offset with
    | none => .error ⟨.endInString, offset⟩
    | some '"' => .ok (read, offset + 1)
    | some '\\' =>
      match source.peek (offset + 1) with
      | none => .error ⟨.endInString, offset + 1⟩
      | some 'u' => do
        let (c, offset) ← source.unicodeEscape (offset + 2)
        stringBytes source fuel offset (read ++ (String.singleton c).toUTF8)
      | some letter =>
        match escaped? letter with
        | some c => stringBytes source fuel (offset + 2) (read.push c.toUInt8)
        | none => .error ⟨.invalidEscape, offset + 2⟩
    | some c =>
      if c.toNat < 32 then .error ⟨.controlCharacter, offset + 1⟩
      else stringBytes source fuel (offset + 1) (read.push c.toUInt8)

/-- A string, from the byte after its opening quote. -/
def string (source : Source) (offset : Nat) : Except Flaw (String × Nat) := do
  let (bytes, stop) ← source.stringBytes (source.size + 1) offset .empty
  match String.fromUTF8? bytes with
  | some text => .ok (text, stop)
  | none => .error ⟨.invalidCodePoint, stop - 1⟩

/-- Takes digits into a significand for as long as it stays below `2 ^ 64`; also gives how many
were taken. -/
def accumulate : Nat → List Char → Nat × Nat
  | significand, [] => (significand, 0)
  | significand, c :: rest =>
    let grown := 10 * significand + (c.toNat - '0'.toNat)
    if 0x10000000000000000 ≤ grown then (significand, 0)
    else
      let (final, taken) := accumulate grown rest
      (final, taken + 1)

/-- The number of leading digits after which an exponent passes `2 ^ 31 - 1`, if it does. -/
def exponentOverflow? : Nat → Nat → List Char → Option Nat
  | _, _, [] => none
  | exponent, taken, c :: rest =>
    let grown := 10 * exponent + (c.toNat - '0'.toNat)
    if 0x80000000 ≤ grown then some (taken + 1) else exponentOverflow? grown (taken + 1) rest

/-- A number with a point or an exponent, or too long to be an integer. -/
def scaled (negative : Bool) (significand : Nat) (exponent : Int) (stop : Nat) :
    Except Flaw (Number × Nat) :=
  match Binary64.ofScaled? negative significand exponent with
  | some x => .ok (.float x, stop)
  | none => .error ⟨.numberOutOfRange, stop⟩

/-- The exponent of a number, from the byte after its letter. -/
def exponentPart (source : Source) (negative : Bool) (significand : Nat) (exponent : Int)
    (offset : Nat) : Except Flaw (Number × Nat) :=
  let (down, offset) := match source.peek offset with
    | some '+' => (false, offset + 1)
    | some '-' => (true, offset + 1)
    | _ => (false, offset)
  match source.peek offset with
  | none => .error ⟨.endInValue, offset⟩
  | some c =>
    if !c.isDigit then .error ⟨.invalidNumber, offset + 1⟩
    else
      let ds := source.digits offset
      match exponentOverflow? 0 0 ds with
      | some taken =>
        if significand ≠ 0 ∧ !down then .error ⟨.numberOutOfRange, offset + taken⟩
        else .ok (.float (.zero negative), offset + ds.length)
      | none =>
        let shift : Nat := Numeral.ofDigits ds
        scaled negative significand (if down then exponent - shift else exponent + shift)
          (offset + ds.length)

/-- The fraction of a number, from the byte after its point. -/
def fractionPart (source : Source) (negative : Bool) (significand : Nat) (exponent : Int)
    (offset : Nat) : Except Flaw (Number × Nat) :=
  let ds := source.digits offset
  let stop := offset + ds.length
  if ds.isEmpty then
    match source.peek offset with
    | some _ => .error (source.ahead .invalidNumber offset)
    | none => .error (source.ahead .endInValue offset)
  else
    let (significand, taken) := accumulate significand ds
    match source.peek stop with
    | some 'e' => source.exponentPart negative significand (exponent - taken) (stop + 1)
    | some 'E' => source.exponentPart negative significand (exponent - taken) (stop + 1)
    | _ => scaled negative significand (exponent - taken) stop

/-- An integer that was written without point and exponent. Zero with a minus sign and integers
below `-2 ^ 63` are binary numbers. -/
def integer (negative : Bool) (significand : Nat) : Number :=
  if negative then
    if significand = 0 ∨ 0x8000000000000000 < significand then
      .float ⟨true, (Binary64.ofInt significand).rank⟩
    else .ofInt (-(significand : Int))
  else .ofInt significand

/-- A number, from the byte after its sign. -/
def number (source : Source) (negative : Bool) (offset : Nat) : Except Flaw (Number × Nat) :=
  match source.peek offset with
  | none => .error ⟨.endInValue, offset⟩
  | some first =>
    if !first.isDigit then .error ⟨.invalidNumber, offset + 1⟩
    else
      let ds := source.digits offset
      if first = '0' ∧ 1 < ds.length then .error (source.ahead .invalidNumber (offset + 1))
      else
        let stop := offset + ds.length
        let (significand, taken) := accumulate 0 ds
        let dropped := ds.length - taken
        match source.peek stop with
        | some '.' => source.fractionPart negative significand dropped (stop + 1)
        | some 'e' => source.exponentPart negative significand dropped (stop + 1)
        | some 'E' => source.exponentPart negative significand dropped (stop + 1)
        | _ =>
          if dropped = 0 then .ok (integer negative significand, stop)
          else scaled negative significand dropped stop

/-! ## Skipping -/

/-- Skips a string, from the byte after its opening quote. -/
def skipString (source : Source) : Nat → Nat → Except Flaw Nat
  | 0, offset => .error ⟨.endInString, offset⟩
  | fuel + 1, offset =>
    match source.peek offset with
    | none => .error ⟨.endInString, offset⟩
    | some '"' => .ok (offset + 1)
    | some '\\' =>
      match source.peek (offset + 1) with
      | none => .error ⟨.endInString, offset + 1⟩
      | some 'u' => do
        let _ ← source.hexQuad (offset + 2)
        skipString source fuel (offset + 6)
      | some letter =>
        match escaped? letter with
        | some _ => skipString source fuel (offset + 2)
        | none => .error ⟨.invalidEscape, offset + 2⟩
    | some c =>
      if c.toNat < 32 then .error ⟨.controlCharacter, offset⟩
      else skipString source fuel (offset + 1)

def skipExponent (source : Source) (offset : Nat) : Except Flaw Nat :=
  let offset := match source.peek offset with
    | some '+' => offset + 1
    | some '-' => offset + 1
    | _ => offset
  let ds := source.digits offset
  if ds.isEmpty then .error ⟨.invalidNumber, min source.size (offset + 1)⟩
  else .ok (offset + ds.length)

def skipNumber (source : Source) (offset : Nat) : Except Flaw Nat :=
  let ds := source.digits offset
  let stop := offset + ds.length
  match ds with
  | [] => .error ⟨.invalidNumber, min source.size (offset + 1)⟩
  | first :: rest =>
    if first = '0' ∧ !rest.isEmpty then .error (source.ahead .invalidNumber (offset + 1))
    else
      match source.peek stop with
      | some 'e' => source.skipExponent (stop + 1)
      | some 'E' => source.skipExponent (stop + 1)
      | some '.' =>
        let fraction := source.digits (stop + 1)
        let stop := stop + 1 + fraction.length
        if fraction.isEmpty then .error (source.ahead .invalidNumber stop)
        else
          match source.peek stop with
          | some 'e' => source.skipExponent (stop + 1)
          | some 'E' => source.skipExponent (stop + 1)
          | _ => .ok stop
      | _ => .ok stop

mutual
def skipValue (source : Source) : Nat → Nat → Except Flaw Nat
  | 0, offset => .error ⟨.endInValue, offset⟩
  | fuel + 1, offset =>
    let offset := source.next offset
    match source.peek offset with
    | none => .error (source.ahead .endInValue offset)
    | some 'n' => source.word ['u', 'l', 'l'] (offset + 1)
    | some 't' => source.word ['r', 'u', 'e'] (offset + 1)
    | some 'f' => source.word ['a', 'l', 's', 'e'] (offset + 1)
    | some '-' => source.skipNumber (offset + 1)
    | some '"' => source.skipString source.size (offset + 1)
    | some '[' =>
      let inner := source.next (offset + 1)
      match source.peek inner with
      | none => .error (source.ahead .endInList inner)
      | some ']' => .ok (inner + 1)
      | some _ => skipItems source fuel inner
    | some '\x7b' =>
      let inner := source.next (offset + 1)
      match source.peek inner with
      | none => .error (source.ahead .endInObject inner)
      | some '\x7d' => .ok (inner + 1)
      | some _ => skipMembers source fuel inner
    | some c => if c.isDigit then source.skipNumber offset
      else .error (source.ahead .expectedValue offset)

def skipItems (source : Source) : Nat → Nat → Except Flaw Nat
  | 0, offset => .error ⟨.endInList, offset⟩
  | fuel + 1, offset => do
    let stop ← skipValue source fuel offset
    let offset := source.next stop
    match source.peek offset with
    | none => .error (source.ahead .endInList offset)
    | some ']' => .ok (offset + 1)
    | some ',' => skipItems source fuel (offset + 1)
    | some _ => .error (source.ahead .expectedListEnd offset)

def skipMembers (source : Source) : Nat → Nat → Except Flaw Nat
  | 0, offset => .error ⟨.endInObject, offset⟩
  | fuel + 1, offset =>
    let offset := source.next offset
    match source.peek offset with
    | none => .error (source.ahead .endInObject offset)
    | some '"' => do
      let stop ← source.skipString source.size (offset + 1)
      let colon := source.next stop
      match source.peek colon with
      | none => .error (source.ahead .endInObject colon)
      | some ':' =>
        let stop ← skipValue source fuel (colon + 1)
        let offset := source.next stop
        match source.peek offset with
        | none => .error (source.ahead .endInObject offset)
        | some '\x7d' => .ok (offset + 1)
        | some ',' => skipMembers source fuel (offset + 1)
        | some _ => .error (source.ahead .expectedObjectEnd offset)
      | some _ => .error (source.ahead .expectedColon colon)
    | some _ => .error (source.ahead .keyNotString offset)
end

/-! ## Reading -/

/-- A leaf, or the fault in its place. -/
def leaf {α : Type} (source : Source) (start : Nat) (build : α → Option Span → Marked)
    (read : Except Flaw (α × Nat)) : Marked :=
  match read with
  | .ok (value, stop) => build value (some ⟨start, stop, source.next stop⟩)
  | .error flaw => .broken flaw start

mutual
/-- Reads a value; `depth` is how many more containers may be opened. -/
def value (source : Source) : Nat → Nat → Nat → Marked
  | 0, _, offset => .broken ⟨.endInValue, offset⟩ offset
  | fuel + 1, depth, offset =>
    let start := source.next offset
    match source.peek start with
    | none => .broken (source.ahead .endInValue start) start
    | some 'n' =>
      source.leaf start (fun _ s ↦ .null s) ((source.word ['u', 'l', 'l'] (start + 1)).map ((), ·))
    | some 't' =>
      source.leaf start .bool ((source.word ['r', 'u', 'e'] (start + 1)).map (true, ·))
    | some 'f' =>
      source.leaf start .bool ((source.word ['a', 'l', 's', 'e'] (start + 1)).map (false, ·))
    | some '-' => source.leaf start .number (source.number true (start + 1))
    | some '"' => source.leaf start .string (source.string (start + 1))
    | some '[' =>
      match depth with
      | 0 => .tooDeep .array start
      | depth + 1 =>
        let inner := source.next (start + 1)
        let (read, ending, stop) := match source.peek inner with
          | some ']' => ([], Ending.closed, inner + 1)
          | some _ => items source fuel depth inner
          | none => ([], .cut (source.ahead .endInList inner), inner)
        .array read ending (some ⟨start, stop, source.next stop⟩)
    | some '\x7b' =>
      match depth with
      | 0 => .tooDeep .object start
      | depth + 1 =>
        let inner := source.next (start + 1)
        let (read, ending, stop) := match source.peek inner with
          | some '\x7d' => ([], Ending.closed, inner + 1)
          | some _ => members source fuel depth inner
          | none => ([], .cutAtKey (source.ahead .endInObject inner), inner)
        .object read ending (some ⟨start, stop, source.next stop⟩)
    | some c =>
      if c.isDigit then source.leaf start .number (source.number false start)
      else .broken (source.ahead .expectedValue start) start
termination_by structural fuel => fuel

/-- Reads items up to the end of their list or the first fault. -/
def items (source : Source) : Nat → Nat → Nat → List Marked × Ending × Nat
  | 0, _, offset => ([], .cut ⟨.endInList, offset⟩, offset)
  | fuel + 1, depth, offset =>
    let item := value source fuel depth offset
    match item.isWhole, item.span with
    | true, some span =>
      match source.peek span.next with
      | some ']' => ([item], .closed, span.next + 1)
      | some ',' =>
        let after := source.next (span.next + 1)
        match source.peek after with
        | none => ([item], .cut (source.ahead .endInValue after), after)
        | some ']' => ([item], .cut (source.ahead .trailingComma after), after)
        | some _ =>
          let (rest, ending, stop) := items source fuel depth after
          (item :: rest, ending, stop)
      | some _ => ([item], .cut (source.ahead .expectedListEnd span.next), span.next)
      | none => ([item], .cut (source.ahead .endInList span.next), span.next)
    | _, _ => ([item], .cut ⟨.endInList, offset⟩, offset)
termination_by structural fuel => fuel

/-- Reads members up to the end of their object or the first fault. A value that cannot be read but
can be skipped does not end the object. -/
def members (source : Source) : Nat → Nat → Nat →
    List (Key × Option Flaw × Marked) × Ending × Nat
  | 0, _, offset => ([], .cut ⟨.endInObject, offset⟩, offset)
  | fuel + 1, depth, offset =>
    match source.peek offset with
    | some '"' =>
      match source.string (offset + 1) with
      | .error flaw => ([], .cutAtKey flaw, offset)
      | .ok (text, stop) =>
        let colon := source.next stop
        let settled := if source.peek colon = some '\x7d' then colon + 1 else colon
        let key : Key := ⟨text, some stop, some settled⟩
        match source.peek colon with
        | some ':' =>
          let read := value source fuel depth (colon + 1)
          let skipped : Except Flaw Nat := match read.isWhole, read.span with
            | true, some span => .ok span.stop
            | _, _ => source.skipValue fuel (colon + 1)
          match skipped with
          | .error flaw => ([(key, some flaw, read)], .cut flaw, offset)
          | .ok stop =>
            let after := source.next stop
            match source.peek after with
            | some '\x7d' => ([(key, none, read)], .closed, after + 1)
            | some ',' =>
              let following := source.next (after + 1)
              match source.peek following with
              | some '\x7d' =>
                ([(key, none, read)], .cutAtKey (source.ahead .trailingComma following), following)
              | none =>
                ([(key, none, read)], .cutAtKey (source.ahead .endInValue following), following)
              | some _ =>
                let (rest, ending, stop) := members source fuel depth following
                ((key, none, read) :: rest, ending, stop)
            | some _ =>
              ([(key, none, read)], .cutAtKey (source.ahead .expectedObjectEnd after), after)
            | none => ([(key, none, read)], .cutAtKey (source.ahead .endInObject after), after)
        | some _ => ([], .cutAfterKey key (source.ahead .expectedColon colon), colon)
        | none => ([], .cutAfterKey key (source.ahead .endInObject colon), colon)
    | some _ =>
      let instead := value source fuel 0 offset
      ([], .cutAtValue (source.ahead .keyNotString offset) instead.found, offset)
    | none => ([], .cutAtKey (source.ahead .endInObject offset), offset)
termination_by structural fuel => fuel
end

/-- Enough fuel to read or skip the whole text. -/
def fuel (source : Source) : Nat := 2 * source.size + 2

def read (source : Source) : Marked := source.value source.fuel 127 0

end Source

end ToolSchema.Json
