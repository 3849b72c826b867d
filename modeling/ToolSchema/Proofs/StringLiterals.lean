import ToolSchema.Proofs.Literals
import Mathlib

/-!
# String literals

By the grammar of ECMAScript a text between quotes stands for units of sixteen bits. A character
stands for itself unless it is the quote, a backslash, or the end of a line: a line feed or a
carriage return. A backslash starts an escape. Octal escapes are left out, since modules do not have
them.

A text written as a JSON string is a literal between double quotes that stands for the text. A text
written between single quotes is a literal exactly if it holds no carriage return, and it then
stands for the text. A carriage return is written as it is, and a literal cannot go on past it.
-/

namespace ToolSchema

namespace StringLiteral

/-! ## Values -/

/-- The units of sixteen bits that a code point is encoded in. -/
def codeUnits (n : ℕ) : List UInt16 :=
  if n < 0x10000 then [n.toUInt16]
  else [(0xD800 + (n - 0x10000) / 0x400).toUInt16, (0xDC00 + (n - 0x10000) % 0x400).toUInt16]

/-- The units of sixteen bits that a text is encoded in. -/
def textUnits (s : String) : List UInt16 := s.toList.flatMap fun c ↦ codeUnits c.toNat

example : textUnits "a😀" = [0x61, 0xD83D, 0xDE00] := by decide

/-! ## Escapes -/

/-- The value of a hexadecimal digit of either case. -/
def hexDigit? (c : Char) : Option ℕ :=
  if c.isDigit then some (c.toNat - '0'.toNat)
  else if 'a' ≤ c ∧ c ≤ 'f' then some (c.toNat - 'a'.toNat + 10)
  else if 'A' ≤ c ∧ c ≤ 'F' then some (c.toNat - 'A'.toNat + 10)
  else none

/-- The number that hexadecimal digits write. -/
def hexNumber? (digits : List Char) : Option ℕ :=
  digits.foldlM (fun n c ↦ (hexDigit? c).map fun digit ↦ 16 * n + digit) 0

/-- The character that a letter behind a backslash stands for, if not for itself. -/
def letter? : Char → Option Char
  | 'b' => some '\x08'
  | 't' => some '\t'
  | 'n' => some '\n'
  | 'v' => some '\x0b'
  | 'f' => some '\x0c'
  | 'r' => some '\r'
  | _ => none

/-- The characters that end a line. Behind a backslash they stand for nothing. -/
def lineEnds : List Char := ['\n', '\r', '\u2028', '\u2029']

/-- A code point between braces, read behind the opening one. -/
def braced? (text : List Char) : Option (List UInt16 × List Char) :=
  match text.span (· ≠ '\x7d') with
  | (first :: digits, _ :: rest) => do
    let n ← hexNumber? (first :: digits)
    if n ≤ 0x10FFFF then some (codeUnits n, rest) else none
  | _ => none

/-- An escape, read behind its backslash: the units that it stands for, and what follows it. -/
def escape? : List Char → Option (List UInt16 × List Char)
  | [] => none
  | '0' :: rest => if rest.head?.any Char.isDigit then none else some (codeUnits 0, rest)
  | 'x' :: a :: b :: rest => (hexNumber? [a, b]).map fun n ↦ (codeUnits n, rest)
  | 'u' :: '\x7b' :: rest => braced? rest
  | 'u' :: a :: b :: c :: d :: rest => (hexNumber? [a, b, c, d]).map fun n ↦ (codeUnits n, rest)
  | '\r' :: '\n' :: rest => some ([], rest)
  | c :: rest =>
    if c = 'x' ∨ c = 'u' ∨ c.isDigit then none
    else if c ∈ lineEnds then some ([], rest)
    else some (codeUnits ((letter? c).getD c).toNat, rest)

/-! ## Literals -/

/-- The first element of what stands behind the opening quote: a character or an escape. -/
def element? (quote : Char) : List Char → Option (List UInt16 × List Char)
  | [] => none
  | c :: rest =>
    if c = '\\' then escape? rest
    else if c = quote ∨ c = '\n' ∨ c = '\r' then none
    else some (codeUnits c.toNat, rest)

/-- Elements up to the closing quote, which ends the text, and the units that they stand for. -/
inductive Elements (quote : Char) : List Char → List UInt16 → Prop
  | close : Elements quote [quote] []
  | element {text rest units value} (first : element? quote text = some (units, rest))
      (others : Elements quote rest value) : Elements quote text (units ++ value)

/-- A text is one literal that stands for the given units. -/
def IsLiteral (quote : Char) (text : String) (value : List UInt16) : Prop :=
  ∃ inside, text.toList = quote :: inside ∧ Elements quote inside value

section Reading

variable {quote : Char} {text rest : List Char} {units value : List UInt16}

theorem element?_quote (hquote : quote ≠ '\\') : element? quote (quote :: rest) = none := by
  simp [element?, hquote]

theorem element?_of_plain {c : Char} (hescape : c ≠ '\\') (hquote : c ≠ quote)
    (hline : c ≠ '\n' ∧ c ≠ '\r') :
    element? quote (c :: rest) = some (codeUnits c.toNat, rest) := by
  simp [element?, hescape, hquote, hline]

/-- The first element is determined by the text, so that there is one way to read it. -/
theorem elements_of_element? (hquote : quote ≠ '\\')
    (h : element? quote text = some (units, rest)) :
    Elements quote text value ↔ ∃ after, value = units ++ after ∧ Elements quote rest after := by
  constructor
  · intro helements
    cases helements with
    | close => cases h.symm.trans (element?_quote hquote)
    | element first others =>
      obtain ⟨rfl, rfl⟩ := Prod.mk.inj (Option.some.inj (h.symm.trans first))
      exact ⟨_, rfl, others⟩
  · rintro ⟨after, rfl, hafter⟩
    exact .element h hafter

theorem elements_quote (hquote : quote ≠ '\\') : Elements quote [quote] value ↔ value = [] := by
  constructor
  · intro helements
    cases helements with
    | close => rfl
    | element first others => cases first.symm.trans (element?_quote hquote)
  · rintro rfl
    exact .close

theorem not_elements (hread : element? quote text = none) (hclose : text ≠ [quote]) :
    ¬ Elements quote text value := by
  intro helements
  cases helements with
  | close => exact hclose rfl
  | element first others => cases hread.symm.trans first

end Reading

/-! ## Writing -/

/-- A way to write characters inside a literal: a legible one is read as itself, whatever follows,
and from any other on nothing can be read. -/
structure Writes (quote : Char) (legible : Char → Prop) (write : Char → List Char) : Prop where
  quote_ne : quote ≠ '\\'
  read : ∀ {c}, legible c → ∀ rest,
    element? quote (write c ++ rest) = some (codeUnits c.toNat, rest)
  stuck : ∀ {c}, ¬ legible c → ∀ rest,
    element? quote (write c ++ rest) = none ∧ write c ++ rest ≠ [quote]

/-- What was written is read exactly if all characters are legible, and then stands for them. -/
theorem Writes.elements_iff {quote : Char} {legible : Char → Prop} {write : Char → List Char}
    (h : Writes quote legible write) (cs : List Char) (value : List UInt16) :
    Elements quote (cs.flatMap write ++ [quote]) value ↔
      (∀ c ∈ cs, legible c) ∧ value = cs.flatMap fun c ↦ codeUnits c.toNat := by
  induction cs generalizing value with
  | nil => simp [elements_quote h.quote_ne]
  | cons c cs ih =>
    rw [List.flatMap_cons, List.append_assoc, List.forall_mem_cons]
    by_cases hc : legible c
    · rw [elements_of_element? h.quote_ne (h.read hc _)]
      simp only [ih, hc, true_and, List.flatMap_cons]
      constructor
      · rintro ⟨after, rfl, hcs, rfl⟩
        exact ⟨hcs, rfl⟩
      · rintro ⟨hcs, rfl⟩
        exact ⟨_, rfl, hcs, rfl⟩
    · obtain ⟨hread, hclose⟩ := h.stuck hc (cs.flatMap write ++ [quote])
      exact iff_of_false (not_elements hread hclose) fun hlegible ↦ hc hlegible.1.1

theorem hexDigit?_hexDigit {n : ℕ} (h : n < 16) : hexDigit? (Json.hexDigit n) = some n := by
  interval_cases n <;> decide

/-- What an escape of JSON stands for, it stands for in a script. -/
theorem escape?_of_escaped? {letter c : Char} (h : Json.Source.escaped? letter = some c)
    (rest : List Char) : escape? (letter :: rest) = some (codeUnits c.toNat, rest) := by
  unfold Json.Source.escaped? at h
  split at h <;> cases h <;> rfl

/-- A JSON string can hold every character. -/
theorem writes_escapeChar : Writes '"' (fun _ ↦ True) Json.escapeChar where
  quote_ne := by decide
  read := by
    intro c _ rest
    rcases Json.escapeChar_cases c with ⟨letter, hletter, h⟩ | ⟨hc, h⟩ | ⟨hquote, hescape, hc, h⟩
    · rw [h]
      exact escape?_of_escaped? hletter rest
    · have hzero : hexDigit? '0' = some 0 := rfl
      have hhigh := hexDigit?_hexDigit (n := c.toNat / 16) (by omega)
      have hlow := hexDigit?_hexDigit (n := c.toNat % 16) (by omega)
      have hnumber : hexNumber? ['0', '0', Json.hexDigit (c.toNat / 16),
          Json.hexDigit (c.toNat % 16)] = some c.toNat := by
        simp [hexNumber?, hzero, hhigh, hlow, Nat.div_add_mod]
      rw [h]
      simp [element?, escape?, hnumber]
    · have hline : c ≠ '\n' ∧ c ≠ '\r' := by
        constructor
        · rintro rfl
          exact absurd hc (by decide)
        · rintro rfl
          exact absurd hc (by decide)
      rw [h]
      exact element?_of_plain hescape hquote hline
  stuck := fun h ↦ absurd trivial h

/-- Between single quotes every character but a carriage return can stand. -/
theorem writes_singleQuotedChar : Writes '\'' (· ≠ '\r') singleQuotedChar where
  quote_ne := by decide
  read := by
    intro c hc rest
    unfold singleQuotedChar
    split
    · next h => subst h; rfl
    split
    · next h => subst h; rfl
    split
    · next h => subst h; rfl
    · next hescape hquote hfeed => exact element?_of_plain hescape hquote ⟨hfeed, hc⟩
  stuck := by
    intro c hc rest
    obtain rfl : c = '\r' := not_not.mp hc
    have hwrite : singleQuotedChar '\r' = ['\r'] := rfl
    rw [hwrite]
    simp [element?]

/-- A JSON string is one literal, which stands for its text. -/
theorem isLiteral_quoted_iff (s : String) (value : List UInt16) :
    IsLiteral '"' (Json.quoted s) value ↔ value = textUnits s := by
  have hinside := writes_escapeChar.elements_iff s.toList value
  simp only [implies_true, true_and] at hinside
  rw [textUnits, ← hinside]
  simp [IsLiteral, Json.quoted, Json.quotedChars]

/-- A text between single quotes is a literal exactly if it holds no carriage return, and then it
stands for its text. -/
theorem isLiteral_singleQuoted_iff (s : String) (value : List UInt16) :
    IsLiteral '\'' (singleQuoted s) value ↔ '\r' ∉ s.toList ∧ value = textUnits s := by
  have hinside := writes_singleQuotedChar.elements_iff s.toList value
  have hreturn : (∀ c ∈ s.toList, c ≠ '\r') ↔ '\r' ∉ s.toList := by
    simp only [ne_eq, imp_not_comm (a := _ ∈ _), forall_eq]
  rw [hreturn] at hinside
  rw [textUnits, ← hinside]
  simp [IsLiteral, singleQuoted]

end StringLiteral

end ToolSchema
