import ToolSchema.Proofs.StringLiterals
import Mathlib

/-!
# Declared names

The name that a field is declared under is an identifier, and it is declared under itself: what an
identifier cannot hold has become an underscore, nothing is left to trim, a digit does not come
first, and there is more than underscores. Every identifier that is more than underscores is such a
name.

A key of an object literal is an identifier or a string literal that stands for the name, and keys
of different names differ.
-/

namespace ToolSchema

/-! ## Characters of identifiers -/

/-- Identifiers are written in visible ASCII characters. -/
theorem visible_of_isIdentifierChar {c : Char} (h : isIdentifierChar c) :
    33 ≤ c.toNat ∧ c.toNat ≤ 126 := by
  have hkind : (((65 ≤ c.toNat ∧ c.toNat ≤ 90) ∨ (97 ≤ c.toNat ∧ c.toNat ≤ 122)) ∨
      (48 ≤ c.toNat ∧ c.toNat ≤ 57)) ∨ c = '_' ∨ c = '$' := by
    simpa [isIdentifierChar, Char.isAlphanum, Char.isAlpha, Char.isUpper, Char.isLower,
      Char.isDigit, UInt32.le_iff_toNat_le, or_assoc] using h
  rcases hkind with ((hupper | hlower) | hdigit) | rfl | rfl
  · omega
  · omega
  · omega
  · decide
  · decide

theorem trimChars_of_notBlank {cs : List Char} (h : ∀ c ∈ cs, Text.isBlank c = false) :
    Text.trimChars cs = cs := by
  have hdrop : ∀ ds : List Char, (∀ d ∈ ds, Text.isBlank d = false) →
      ds.dropWhile Text.isBlank = ds := by
    intro ds hds
    rw [List.dropWhile_eq_self_iff]
    intro hlength
    simp [hds _ (List.getElem_mem hlength)]
  rw [Text.trimChars, hdrop cs h, Text.trimEnd, hdrop cs.reverse (by simpa using h),
    List.reverse_reverse]

theorem isIdentifier_iff {s : String} : isIdentifier s ↔
    ∃ c rest, s.toList = c :: rest ∧ c.isDigit = false ∧ ∀ d ∈ s.toList, isIdentifierChar d := by
  unfold isIdentifier
  split
  · next hs => simp [hs]
  · next c rest hs =>
    simp only [hs, isIdentifierStart, Bool.and_eq_true, List.all_eq_true, List.forall_mem_cons,
      Bool.not_eq_true']
    constructor
    · rintro ⟨⟨hc, hdigit⟩, hrest⟩
      exact ⟨c, rest, rfl, hdigit, hc, hrest⟩
    · rintro ⟨_, _, heq, hdigit, hc, hrest⟩
      obtain ⟨rfl, rfl⟩ := List.cons.inj heq
      exact ⟨⟨hc, hdigit⟩, hrest⟩

/-! ## Names of declarations -/

/-- The characters of a text without blanks at its ends, with underscores for those that cannot
stand in an identifier. -/
def nameChars (name : String) : List Char :=
  (Text.trimChars name.toList).map fun c ↦ if isIdentifierChar c then c else '_'

theorem identifier_eq (name : String) : identifier name =
    if (nameChars name).all (· = '_') then "root"
    else if (nameChars name).head?.any Char.isDigit then String.ofList ('_' :: nameChars name)
    else String.ofList (nameChars name) := rfl

theorem isIdentifierChar_of_mem_nameChars {name : String} :
    ∀ c ∈ nameChars name, isIdentifierChar c := by
  have hunderscore : isIdentifierChar '_' := by decide
  rw [nameChars, List.forall_mem_map]
  intro c _
  split
  · assumption
  · exact hunderscore

/-- Characters that may stand in an identifier are left as they are. -/
theorem nameChars_of_isIdentifierChar {s : String} (h : ∀ c ∈ s.toList, isIdentifierChar c) :
    nameChars s = s.toList := by
  have htrim : Text.trimChars s.toList = s.toList :=
    trimChars_of_notBlank fun c hc ↦ Text.isBlank_of_visible (visible_of_isIdentifierChar (h c hc))
  rw [nameChars, htrim]
  apply (List.map_congr_left fun c hc ↦ if_pos (h c hc)).trans
  exact List.map_id _

/-- An identifier that is more than underscores. -/
structure IsDeclaredName (s : String) : Prop where
  isIdentifier : isIdentifier s
  exists_ne : ∃ c ∈ s.toList, c ≠ '_'

theorem IsDeclaredName.ofList {c : Char} {rest : List Char} (hdigit : c.isDigit = false)
    (hchars : ∀ d ∈ c :: rest, isIdentifierChar d) (hne : ∃ d ∈ c :: rest, d ≠ '_') :
    IsDeclaredName (String.ofList (c :: rest)) where
  isIdentifier := by
    rw [isIdentifier_iff, String.toList_ofList]
    exact ⟨c, rest, rfl, hdigit, hchars⟩
  exists_ne := by rwa [String.toList_ofList]

/-- Every text is declared under such a name. -/
theorem isDeclaredName_identifier (name : String) : IsDeclaredName (identifier name) := by
  have hchars : ∀ c ∈ nameChars name, isIdentifierChar c := isIdentifierChar_of_mem_nameChars
  rw [identifier_eq]
  split
  · exact ⟨by decide, 'r', by decide, by decide⟩
  · next hunderscores =>
    obtain ⟨c, hc, hne⟩ : ∃ c ∈ nameChars name, c ≠ '_' := by simpa using hunderscores
    split
    · -- The underscore in front of a digit keeps the digit behind it.
      apply IsDeclaredName.ofList rfl
      · exact List.forall_mem_cons.mpr ⟨by decide, hchars⟩
      · exact ⟨c, List.mem_cons_of_mem _ hc, hne⟩
    · next hdigit =>
      obtain ⟨first, rest, heq⟩ := List.exists_cons_of_ne_nil (List.ne_nil_of_mem hc)
      rw [heq] at hc hchars hdigit ⊢
      exact .ofList (by simpa using hdigit) hchars ⟨c, hc, hne⟩

/-- Such a name is declared as it is. -/
theorem IsDeclaredName.identifier_eq_self {s : String} (h : IsDeclaredName s) :
    identifier s = s := by
  obtain ⟨c, rest, hs, hdigit, hchars⟩ := isIdentifier_iff.mp h.isIdentifier
  have hunderscores : ¬ (s.toList.all (· = '_')) := by simpa using h.exists_ne
  have hhead : ¬ (s.toList.head?.any Char.isDigit) := by simp [hs, hdigit]
  rw [identifier_eq, nameChars_of_isIdentifierChar hchars, if_neg hunderscores, if_neg hhead,
    String.ofList_toList]

/-! ## Keys of object literals -/

/-- A name is known by its key, although some keys are quoted and others are not. -/
theorem objectKey_injective : Function.Injective objectKey := by
  intro a b h
  have hcolon : (objectKey a).toList ++ [':'] = (objectKey b).toList ++ [':'] := by rw [h]
  exact (objectKey_append_inj hcolon).1

/-- The name of a declaration is an identifier, and it is its own name; a key is the name itself if
that is an identifier, and otherwise the JSON string of the name, a literal that stands for it; and
different names have different keys. -/
theorem names_and_keys_are_valid (name : String) :
    (isIdentifier (identifier name) ∧ identifier (identifier name) = identifier name) ∧
    (isIdentifier name ∧ objectKey name = name ∨
      ¬ isIdentifier name ∧ objectKey name = Json.compact (.string name) ∧
      ∀ value, StringLiteral.IsLiteral '"' (objectKey name) value ↔
        value = StringLiteral.textUnits name) ∧
    Function.Injective objectKey := by
  refine ⟨?_, ?_, objectKey_injective⟩
  · have hname := isDeclaredName_identifier name
    exact ⟨hname.isIdentifier, hname.identifier_eq_self⟩
  · by_cases hname : isIdentifier name
    · exact .inl ⟨hname, if_pos hname⟩
    · have hkey : objectKey name = Json.quoted name := if_neg hname
      rw [hkey, Json.compact]
      exact .inr ⟨hname, rfl, StringLiteral.isLiteral_quoted_iff name⟩

end ToolSchema
