import ToolSchema.Pattern
import ToolSchema.Proofs.StringLiterals
import Mathlib

/-!
# Pattern literals

The literal of a pattern stands between slashes, and a slash inside it has a backslash before it. A
text is read from the left piece by piece: a backslash together with the character that it escapes,
or another character by itself. Writing the literal turns each slash that is a piece by itself into
an escaped one and leaves the other pieces as they are. At the end of a text a backslash can be left
over, which escapes what follows; such a text ends in an odd run of backslashes.

A literal stands on one line exactly if its pattern does. Patterns can hold the end of a line, which
is written as it is.
-/

namespace ToolSchema

namespace PatternLiteral

/-! ## Reading piece by piece -/

/-- What stands before the first slash that no backslash escapes, and what stands behind it. -/
def splitAtSlash? : List Char → Option (List Char × List Char)
  | [] => none
  | '\\' :: c :: rest => (splitAtSlash? rest).map fun split ↦ ('\\' :: c :: split.1, split.2)
  | c :: rest =>
    if c = '/' then some ([], rest)
    else (splitAtSlash? rest).map fun split ↦ (c :: split.1, split.2)

/-- What a literal holds, and what follows it. The literal is closed by the first slash behind the
opening one that no backslash escapes. -/
def read? : List Char → Option (List Char × List Char)
  | '/' :: rest => splitAtSlash? rest
  | _ => none

/-- A text without the backslashes that escape a slash. -/
def unescapeSlashes : List Char → List Char
  | [] => []
  | '\\' :: c :: rest =>
    if c = '/' then '/' :: unescapeSlashes rest else '\\' :: c :: unescapeSlashes rest
  | c :: rest => c :: unescapeSlashes rest

/-- The length of the run of backslashes that ends a text. -/
def finalBackslashes (cs : List Char) : ℕ := (cs.reverse.takeWhile (· = '\\')).length

/-- Induction on a text piece by piece: it may end in a backslash that escapes nothing. -/
theorem piecesInduction {motive : List Char → Prop} (nil : motive []) (dangling : motive ['\\'])
    (escaped : ∀ c rest, motive rest → motive ('\\' :: c :: rest))
    (plain : ∀ c rest, c ≠ '\\' → motive rest → motive (c :: rest)) : ∀ cs, motive cs
  | [] => nil
  | [c] => by
    by_cases hc : c = '\\'
    · exact hc ▸ dangling
    · exact plain c [] hc nil
  | c :: d :: rest => by
    by_cases hc : c = '\\'
    · exact hc ▸ escaped d rest (piecesInduction nil dangling escaped plain rest)
    · exact plain c (d :: rest) hc (piecesInduction nil dangling escaped plain (d :: rest))

section Pieces

variable {c : Char} {rest : List Char}

theorem splitAtSlash?_plain (hc : c ≠ '\\') : splitAtSlash? (c :: rest) =
    if c = '/' then some ([], rest)
    else (splitAtSlash? rest).map fun split ↦ (c :: split.1, split.2) := by
  rw [splitAtSlash?]
  simp [hc]

theorem unescapeSlashes_plain (hc : c ≠ '\\') :
    unescapeSlashes (c :: rest) = c :: unescapeSlashes rest := by
  rw [unescapeSlashes]
  simp [hc]

theorem escapeSlashes_escaped :
    escapeSlashes false ('\\' :: c :: rest) = '\\' :: c :: escapeSlashes false rest := by
  simp [escapeSlashes]

theorem escapeSlashes_slash :
    escapeSlashes false ('/' :: rest) = '\\' :: '/' :: escapeSlashes false rest := by
  simp [escapeSlashes]

theorem escapeSlashes_plain (hc : c ≠ '\\') (hslash : c ≠ '/') :
    escapeSlashes false (c :: rest) = c :: escapeSlashes false rest := by
  simp [escapeSlashes, hc, hslash]

/-- The run that ends a text goes on to the left if the text is nothing but that run. -/
theorem finalBackslashes_append (front rest : List Char) : finalBackslashes (front ++ rest) =
    finalBackslashes rest +
      if finalBackslashes rest = rest.length then finalBackslashes front else 0 := by
  by_cases hrun : finalBackslashes rest = rest.length
  · rw [if_pos hrun, hrun]
    unfold finalBackslashes at hrun ⊢
    rw [List.reverse_append, List.takeWhile_append, if_pos (by rw [hrun, List.length_reverse]),
      List.length_append, List.length_reverse]
  · rw [if_neg hrun, add_zero]
    unfold finalBackslashes at hrun ⊢
    rw [List.reverse_append, List.takeWhile_append, if_neg (by rwa [List.length_reverse])]

theorem finalBackslashes_plain (hc : c ≠ '\\') :
    finalBackslashes (c :: rest) = finalBackslashes rest := by
  have hpiece : finalBackslashes [c] = 0 := by simp [finalBackslashes, hc]
  rw [← List.singleton_append, finalBackslashes_append, hpiece, ite_self, add_zero]

/-- A backslash and what it escapes lengthen the run behind them by two, or leave it alone. -/
theorem odd_finalBackslashes_escaped :
    Odd (finalBackslashes ('\\' :: c :: rest)) ↔ Odd (finalBackslashes rest) := by
  have hpiece : Even (finalBackslashes ['\\', c]) := by
    by_cases hc : c = '\\' <;> simp [finalBackslashes, hc]
  have hfront : '\\' :: c :: rest = ['\\', c] ++ rest := rfl
  rw [hfront, finalBackslashes_append]
  split
  · exact Nat.odd_add.trans (iff_true_right hpiece)
  · rw [add_zero]

end Pieces

/-! ## The literal of a pattern -/

/-- What is written before a slash is what stands before it, unless a backslash is left over that
escapes that slash. -/
theorem splitAtSlash?_escapeSlashes_iff (cs after : List Char) :
    splitAtSlash? (escapeSlashes false cs ++ '/' :: after) = some (escapeSlashes false cs, after) ↔
      ¬ Odd (finalBackslashes cs) := by
  induction cs using piecesInduction with
  | nil => simp [escapeSlashes, splitAtSlash?, finalBackslashes]
  | dangling => simp [escapeSlashes, splitAtSlash?, finalBackslashes]
  | escaped c rest ih =>
    rw [odd_finalBackslashes_escaped, ← ih, escapeSlashes_escaped]
    simp [splitAtSlash?]
  | plain c rest hc ih =>
    rw [finalBackslashes_plain hc, ← ih]
    by_cases hslash : c = '/'
    · subst hslash
      simp [escapeSlashes_slash, splitAtSlash?]
    · rw [escapeSlashes_plain hc hslash, List.cons_append, splitAtSlash?_plain hc]
      simp [hslash]

/-- Writing the literal adds nothing but backslashes that escape slashes. -/
theorem unescapeSlashes_escapeSlashes (cs : List Char) :
    unescapeSlashes (escapeSlashes false cs) = unescapeSlashes cs := by
  induction cs using piecesInduction with
  | nil => rfl
  | dangling => rfl
  | escaped c rest ih => rw [escapeSlashes_escaped, unescapeSlashes, unescapeSlashes, ih]
  | plain c rest hc ih =>
    rw [unescapeSlashes_plain hc, ← ih]
    by_cases hslash : c = '/'
    · subst hslash
      simp [escapeSlashes_slash, unescapeSlashes]
    · rw [escapeSlashes_plain hc hslash, unescapeSlashes_plain hc]

/-- Escaping twice changes nothing more, since every slash has its backslash by then. -/
theorem escapeSlashes_escapeSlashes (cs : List Char) :
    escapeSlashes false (escapeSlashes false cs) = escapeSlashes false cs := by
  induction cs using piecesInduction with
  | nil => rfl
  | dangling => rfl
  | escaped c rest ih => rw [escapeSlashes_escaped, escapeSlashes_escaped, ih]
  | plain c rest hc ih =>
    by_cases hslash : c = '/'
    · subst hslash
      rw [escapeSlashes_slash, escapeSlashes_escaped, ih]
    · rw [escapeSlashes_plain hc hslash, escapeSlashes_plain hc hslash, ih]

/-- The literal of a pattern is closed by its last slash, whatever follows, exactly if the pattern
does not end in an odd run of backslashes. What the literal holds is the pattern but for backslashes
that escape slashes, and it is itself written as it is. -/
theorem closes_exactly_at_its_end (source : String) :
    (∀ after, read? (("/" ++ regexLiteralBody source ++ "/").toList ++ after) =
      some ((regexLiteralBody source).toList, after) ↔ ¬ Odd (finalBackslashes source.toList)) ∧
    unescapeSlashes (regexLiteralBody source).toList = unescapeSlashes source.toList ∧
    regexLiteralBody (regexLiteralBody source) = regexLiteralBody source := by
  have hbody : (regexLiteralBody source).toList = escapeSlashes false source.toList :=
    String.toList_ofList
  refine ⟨?_, ?_, ?_⟩
  · intro after
    rw [← splitAtSlash?_escapeSlashes_iff source.toList after]
    simp [read?, hbody]
  · rw [hbody, unescapeSlashes_escapeSlashes]
  · rw [regexLiteralBody, hbody, escapeSlashes_escapeSlashes, regexLiteralBody]

example : regexLiteralBody "a/b\\/c\\\\/d" = "a\\/b\\/c\\\\\\/d" := by decide

/-! ## Lines -/

/-- A text stands on one line: it holds neither a line feed nor a carriage return. -/
def OneLine (s : String) : Prop := '\n' ∉ s.toList ∧ '\r' ∉ s.toList

/-- Escaping adds nothing but backslashes. -/
theorem mem_escapeSlashes {c : Char} (hc : c ≠ '\\') (escaped : Bool) (cs : List Char) :
    c ∈ escapeSlashes escaped cs ↔ c ∈ cs := by
  induction cs generalizing escaped with
  | nil => rfl
  | cons d rest ih =>
    rw [escapeSlashes]
    split <;> simp [ih, hc]

/-- Ends of lines are copied as they are, so that escaping does not keep a pattern on one line. -/
theorem oneLine_regexLiteralBody_iff (source : String) :
    OneLine (regexLiteralBody source) ↔ OneLine source := by
  simp [OneLine, regexLiteralBody, mem_escapeSlashes]

/-- Which literals are legal: a text between single quotes is one literal exactly if it holds no
carriage return, and it then stands for the text; the literal of a pattern stands on one line
exactly if the pattern does. -/
theorem legal_iff (s source : String) :
    (∀ value, StringLiteral.IsLiteral '\'' (singleQuoted s) value ↔
      '\r' ∉ s.toList ∧ value = StringLiteral.textUnits s) ∧
    (OneLine (regexLiteralBody source) ↔ OneLine source) :=
  ⟨StringLiteral.isLiteral_singleQuoted_iff s, oneLine_regexLiteralBody_iff source⟩

/-- Literals that are not legal: the member of an enumeration with a carriage return in it, and a
pattern of two lines, which can be used. -/
theorem not_legal_with_line_end :
    (∀ value, ¬ StringLiteral.IsLiteral '\'' (singleQuoted "a\rb") value) ∧
    (Pattern.ofSource? "a\nb").isSome ∧ ¬ OneLine (regexLiteralBody "a\nb") := by
  refine ⟨?_, by decide +kernel, ?_⟩
  · intro value hliteral
    exact ((StringLiteral.isLiteral_singleQuoted_iff _ _).mp hliteral).1 (by decide)
  · rw [oneLine_regexLiteralBody_iff]
    exact fun honeLine ↦ honeLine.1 (by decide)

end PatternLiteral

end ToolSchema
