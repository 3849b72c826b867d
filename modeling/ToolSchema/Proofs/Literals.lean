import ToolSchema.Emit
import ToolSchema.Json.Reader
import ToolSchema.Proofs.Numerals
import Mathlib

/-!
# Literals are told apart

A literal in a text ends visibly: from the text that starts with it, it is known what it stands for
and where it ends. A quoted text ends at the first quote that is not escaped, a name or a numeral at
the first character that cannot belong to it. The same holds of lists between brackets, and of whole
documents, if what follows a document does not go on as a numeral could.
-/

namespace ToolSchema

/-! ## Words -/

/-- Texts from one class of characters are told apart if no such character follows them. -/
theorem append_inj_of_class (belongs : Char → Bool) {front back r t : List Char}
    (hfront : ∀ c ∈ front, belongs c) (hback : ∀ c ∈ back, belongs c)
    (hr : ∀ c ∈ r.head?, belongs c = false) (ht : ∀ c ∈ t.head?, belongs c = false)
    (h : front ++ r = back ++ t) : front = back ∧ r = t := by
  have htake : ∀ word rest : List Char, (∀ c ∈ word, belongs c) →
      (∀ c ∈ rest.head?, belongs c = false) → (word ++ rest).takeWhile belongs = word := by
    intro word rest hword hrest
    rw [List.takeWhile_append_of_pos hword]
    cases rest with
    | nil => simp
    | cons c rest => simp [hrest c rfl]
  have heq : front = back := by
    rw [← htake front r hfront hr, h, htake back t hback ht]
  exact ⟨heq, List.append_cancel_left (heq ▸ h)⟩

/-- Two words end where the first mark stands that neither of them has. -/
theorem append_mark_inj {mark : Char} {front back r t : List Char} (hfront : mark ∉ front)
    (hback : mark ∉ back) (h : front ++ mark :: r = back ++ mark :: t) : front = back ∧ r = t := by
  have hclass : ∀ word : List Char, mark ∉ word → ∀ c ∈ word, (c != mark) = true := by
    intro word hword c hc
    simpa using fun heq : c = mark ↦ hword (heq ▸ hc)
  obtain ⟨heq, hrest⟩ := append_inj_of_class (· != mark) (hclass front hfront)
    (hclass back hback) (by simp) (by simp) h
  exact ⟨heq, (List.cons.inj hrest).2⟩

/-! ## Lists -/

/-- Texts with a mark before each but the first. -/
def joined {α : Type} (mark : Char) (write : α → List Char) : List α → List Char
  | [] => []
  | first :: rest => write first ++ rest.flatMap fun item ↦ mark :: write item

section Lists

variable {α γ : Type} {mark close : Char} {write : α → List Char} (meaning : α → γ)
  {stops : List Char → Prop} {r t : List Char}

/-- Items behind marks are told apart, as far as each of them is. -/
theorem flatMap_append_inj (hne : mark ≠ close) (hmark : ∀ r, stops (mark :: r))
    (hclose : ∀ r, stops (close :: r)) {xs ys : List α}
    (hitem : ∀ x ∈ xs, ∀ y ∈ ys, ∀ r t, stops r → stops t → write x ++ r = write y ++ t →
      meaning x = meaning y ∧ r = t)
    (h : (xs.flatMap fun x ↦ mark :: write x) ++ close :: r =
      (ys.flatMap fun y ↦ mark :: write y) ++ close :: t) :
    xs.map meaning = ys.map meaning ∧ r = t := by
  have hstops : ∀ (items : List α) (rest : List Char),
      stops ((items.flatMap fun item ↦ mark :: write item) ++ close :: rest) := by
    intro items rest
    cases items with
    | nil => exact hclose rest
    | cons item items => exact hmark _
  induction xs generalizing ys with
  | nil =>
    cases ys with
    | nil => exact ⟨rfl, (List.cons.inj h).2⟩
    | cons y ys => exact absurd (List.cons.inj h).1 hne.symm
  | cons x xs ih =>
    cases ys with
    | nil => exact absurd (List.cons.inj h).1 hne
    | cons y ys =>
      simp only [List.flatMap_cons, List.cons_append, List.append_assoc, List.cons.injEq,
        true_and] at h
      obtain ⟨hfirst, hrest⟩ := hitem x List.mem_cons_self y List.mem_cons_self _ _
        (hstops xs r) (hstops ys t) h
      obtain ⟨hothers, hend⟩ := ih (fun x hx y hy ↦
        hitem x (List.mem_cons_of_mem _ hx) y (List.mem_cons_of_mem _ hy)) hrest
      exact ⟨by rw [List.map_cons, List.map_cons, hfirst, hothers], hend⟩

/-- Lists up to a closing mark are told apart, as far as their items are, if no item starts with
that mark. -/
theorem joined_append_inj (hne : mark ≠ close) (hmark : ∀ r, stops (mark :: r))
    (hclose : ∀ r, stops (close :: r)) (hstart : ∀ x r t, write x ++ r ≠ close :: t)
    {xs ys : List α}
    (hitem : ∀ x ∈ xs, ∀ y ∈ ys, ∀ r t, stops r → stops t → write x ++ r = write y ++ t →
      meaning x = meaning y ∧ r = t)
    (h : joined mark write xs ++ close :: r = joined mark write ys ++ close :: t) :
    xs.map meaning = ys.map meaning ∧ r = t := by
  cases xs with
  | nil =>
    cases ys with
    | nil => exact ⟨rfl, (List.cons.inj h).2⟩
    | cons y ys =>
      rw [joined, joined, List.append_assoc] at h
      exact absurd h.symm (hstart y _ _)
  | cons x xs =>
    cases ys with
    | nil =>
      rw [joined, joined, List.append_assoc] at h
      exact absurd h (hstart x _ _)
    | cons y ys =>
      have hmarked : ((x :: xs).flatMap fun x ↦ mark :: write x) ++ close :: r =
          ((y :: ys).flatMap fun y ↦ mark :: write y) ++ close :: t := congrArg (mark :: ·) h
      exact flatMap_append_inj meaning hne hmark hclose hitem hmarked

end Lists

/-! ## Quoted texts -/

/-- A way to write characters between quotes: the character and its end are known, and none looks
like the closing quote. -/
structure Escapes (quote : Char) (write : Char → List Char) : Prop where
  append_inj : ∀ {c d r t}, write c ++ r = write d ++ t → c = d ∧ r = t
  start_ne : ∀ {c r t}, write c ++ r ≠ quote :: t

/-- Quoted texts are told apart, whatever stands behind the closing quote. -/
theorem Escapes.flatMap_inj {quote : Char} {write : Char → List Char} (h : Escapes quote write)
    {cs ds r t : List Char}
    (heq : cs.flatMap write ++ quote :: r = ds.flatMap write ++ quote :: t) : cs = ds ∧ r = t := by
  induction cs generalizing ds with
  | nil =>
    cases ds with
    | nil => exact ⟨rfl, (List.cons.inj heq).2⟩
    | cons d ds =>
      rw [List.flatMap_cons, List.append_assoc] at heq
      exact absurd heq.symm h.start_ne
  | cons c cs ih =>
    cases ds with
    | nil =>
      rw [List.flatMap_cons, List.append_assoc] at heq
      exact absurd heq h.start_ne
    | cons d ds =>
      simp only [List.flatMap_cons, List.append_assoc] at heq
      obtain ⟨rfl, hrest⟩ := h.append_inj heq
      obtain ⟨rfl, hend⟩ := ih hrest
      exact ⟨rfl, hend⟩

/-- What can be read back ends visibly. -/
theorem Escapes.of_read {quote : Char} {write : Char → List Char}
    (read : List Char → Option (Char × List Char))
    (hread : ∀ c rest, read (write c ++ rest) = some (c, rest))
    (hstart : ∀ c rest t, write c ++ rest ≠ quote :: t) : Escapes quote write := by
  refine ⟨fun {c d r t} h ↦ ?_, fun {c r t} ↦ hstart c r t⟩
  have hpair : some (c, r) = some (d, t) := by rw [← hread, h, hread]
  exact Prod.mk.inj (Option.some.inj hpair)

namespace Json

def hexValue (c : Char) : ℕ := if c.isDigit then c.toNat - '0'.toNat else c.toNat - 'a'.toNat + 10

theorem hexValue_hexDigit {n : ℕ} (h : n < 16) : hexValue (hexDigit n) = n := by
  interval_cases n <;> decide

/-- The first character of a quoted text, read back. -/
def readChar : List Char → Option (Char × List Char)
  | '\\' :: 'u' :: _ :: _ :: high :: low :: rest =>
    some (Char.ofNat (16 * hexValue high + hexValue low), rest)
  | '\\' :: letter :: rest => (Source.escaped? letter).map fun c ↦ (c, rest)
  | c :: rest => some (c, rest)
  | [] => none

theorem eq_ofNat_of_toNat_eq {c : Char} {n : ℕ} (h : c.toNat = n) : c = Char.ofNat n := by
  rw [← h, Char.ofNat_toNat]

/-- How a character is written: by a letter behind a backslash, by its number, or as it is. -/
theorem escapeChar_cases (c : Char) :
    (∃ letter, Source.escaped? letter = some c ∧ escapeChar c = ['\\', letter]) ∨
    (c.toNat < 32 ∧ escapeChar c =
      ['\\', 'u', '0', '0', hexDigit (c.toNat / 16), hexDigit (c.toNat % 16)]) ∨
    (c ≠ '"' ∧ c ≠ '\\' ∧ 32 ≤ c.toNat ∧ escapeChar c = [c]) := by
  unfold escapeChar
  split
  · next h => subst h; exact .inl ⟨'"', rfl, rfl⟩
  split
  · next h => subst h; exact .inl ⟨'\\', rfl, rfl⟩
  split
  · next h => subst h; exact .inl ⟨'n', rfl, rfl⟩
  split
  · next h => subst h; exact .inl ⟨'r', rfl, rfl⟩
  split
  · next h => subst h; exact .inl ⟨'t', rfl, rfl⟩
  split
  · next h => exact .inl ⟨'b', by rw [eq_ofNat_of_toNat_eq h]; rfl, rfl⟩
  split
  · next h => exact .inl ⟨'f', by rw [eq_ofNat_of_toNat_eq h]; rfl, rfl⟩
  split
  · next h => exact .inr (.inl ⟨h, rfl⟩)
  · next hquote hescape _ _ _ _ _ h => exact .inr (.inr ⟨hquote, hescape, not_lt.mp h, rfl⟩)

theorem escapes_escapeChar : Escapes '"' escapeChar := by
  apply Escapes.of_read readChar
  · intro c rest
    rcases escapeChar_cases c with ⟨letter, hletter, h⟩ | ⟨hc, h⟩ | ⟨-, hescape, -, h⟩
    · have hnumber : letter ≠ 'u' := by
        rintro rfl
        cases hletter
      rw [h, List.cons_append, List.singleton_append, readChar]
      · simp [hletter]
      · simp [hnumber]
    · have hdiv : c.toNat / 16 < 16 := by omega
      have hmod : c.toNat % 16 < 16 := by omega
      have hchar : Char.ofNat (16 * (c.toNat / 16) + c.toNat % 16) = c := by
        rw [Nat.div_add_mod, Char.ofNat_toNat]
      simp [h, readChar, hexValue_hexDigit hdiv, hexValue_hexDigit hmod, hchar]
    · rw [h, List.singleton_append, readChar]
      all_goals simp [hescape]
  · intro c rest t heq
    rcases escapeChar_cases c with ⟨letter, -, h⟩ | ⟨-, h⟩ | ⟨hquote, -, -, h⟩
    · simp [h] at heq
    · simp [h] at heq
    · simp [h, hquote] at heq

/-- Quoted texts are told apart, whatever follows. -/
theorem quoted_append_inj {a b : String} {r t : List Char}
    (h : (quoted a).toList ++ r = (quoted b).toList ++ t) : a = b ∧ r = t := by
  simp only [quoted, quotedChars, String.toList_ofList, List.cons_append, List.append_assoc,
    List.cons.injEq, true_and] at h
  obtain ⟨heq, hrest⟩ := escapes_escapeChar.flatMap_inj h
  exact ⟨String.toList_injective heq, hrest⟩

theorem toList_quoted_eq (s : String) : ∃ rest, (quoted s).toList = '"' :: rest :=
  ⟨_, by rw [quoted, quotedChars, String.toList_ofList]; rfl⟩

end Json

/-- The first character of a text between single quotes, read back. -/
def readSingleQuotedChar : List Char → Option (Char × List Char)
  | '\\' :: letter :: rest => some (if letter = 'n' then '\n' else letter, rest)
  | c :: rest => some (c, rest)
  | [] => none

theorem escapes_singleQuotedChar : Escapes '\'' singleQuotedChar := by
  apply Escapes.of_read readSingleQuotedChar
  · intro c rest
    unfold singleQuotedChar
    split
    · next h => subst h; rfl
    split
    · next h => subst h; rfl
    split
    · next h => subst h; rfl
    · rw [List.singleton_append, readSingleQuotedChar]
      all_goals simp_all
  · intro c rest t h
    unfold singleQuotedChar at h
    split_ifs at h <;> simp_all

theorem singleQuoted_append_inj {a b : String} {r t : List Char}
    (h : (singleQuoted a).toList ++ r = (singleQuoted b).toList ++ t) : a = b ∧ r = t := by
  simp only [singleQuoted, String.toList_ofList, List.cons_append, List.append_assoc,
    List.cons.injEq, true_and] at h
  obtain ⟨heq, hrest⟩ := escapes_singleQuotedChar.flatMap_inj h
  exact ⟨String.toList_injective heq, hrest⟩

/-! ## Keys of object literals -/

theorem exists_toList_eq_of_isIdentifier {s : String} (h : isIdentifier s) :
    ∃ c rest, s.toList = c :: rest ∧ ∀ c ∈ s.toList, isIdentifierChar c := by
  unfold isIdentifier at h
  split at h
  · cases h
  · next c rest hs =>
    rw [Bool.and_eq_true, List.all_eq_true, isIdentifierStart, Bool.and_eq_true] at h
    refine ⟨c, rest, hs, ?_⟩
    rw [hs, List.forall_mem_cons]
    exact ⟨h.1.1, h.2⟩

/-- A key ends at its colon: quoted keys have an end of their own, and other keys hold none. -/
theorem objectKey_append_inj {a b : String} {r t : List Char}
    (h : (objectKey a).toList ++ ':' :: r = (objectKey b).toList ++ ':' :: t) : a = b ∧ r = t := by
  have hcolon : isIdentifierChar ':' = false := by decide
  have hapart : ∀ {a b : String} {r t : List Char}, isIdentifier a →
      a.toList ++ r ≠ (Json.quoted b).toList ++ t := by
    intro a b r t ha heq
    obtain ⟨c, rest, hc, hchars⟩ := exists_toList_eq_of_isIdentifier ha
    obtain ⟨others, hquoted⟩ := Json.toList_quoted_eq b
    rw [hc, hquoted] at heq
    obtain rfl : c = '"' := (List.cons.inj heq).1
    have hquote := hchars '"' (by rw [hc]; exact List.mem_cons_self)
    exact absurd hquote (by decide)
  unfold objectKey at h
  split at h <;> split at h
  · next ha hb =>
    obtain ⟨-, -, -, hfront⟩ := exists_toList_eq_of_isIdentifier ha
    obtain ⟨-, -, -, hback⟩ := exists_toList_eq_of_isIdentifier hb
    obtain ⟨heq, hrest⟩ := append_inj_of_class isIdentifierChar hfront hback (by simpa) (by simpa) h
    exact ⟨String.toList_injective heq, (List.cons.inj hrest).2⟩
  · next ha hb => exact absurd h (hapart ha)
  · next ha hb => exact absurd h.symm (hapart hb)
  · next ha hb =>
    obtain ⟨heq, hrest⟩ := Json.quoted_append_inj h
    exact ⟨heq, (List.cons.inj hrest).2⟩

namespace Json

/-! ## Documents -/

/-- The values of items and members. -/
def parts : Json → List Json
  | .array items => items
  | .object members => members.map Prod.snd
  | _ => []

mutual
/-- Induction on a document over its parts. -/
theorem partsInduction {motive : Json → Prop}
    (step : ∀ value : Json, (∀ part ∈ value.parts, motive part) → motive value) :
    (value : Json) → motive value
  | .array items => step _ (partsInduction_items step items)
  | .object members => step _ (partsInduction_members step members)
  | .null => step _ (List.forall_mem_nil _)
  | .bool _ => step _ (List.forall_mem_nil _)
  | .number _ => step _ (List.forall_mem_nil _)
  | .string _ => step _ (List.forall_mem_nil _)

theorem partsInduction_items {motive : Json → Prop}
    (step : ∀ value : Json, (∀ part ∈ value.parts, motive part) → motive value) :
    (items : List Json) → ∀ item ∈ items, motive item
  | [] => List.forall_mem_nil _
  | item :: rest =>
    List.forall_mem_cons.mpr ⟨partsInduction step item, partsInduction_items step rest⟩

theorem partsInduction_members {motive : Json → Prop}
    (step : ∀ value : Json, (∀ part ∈ value.parts, motive part) → motive value) :
    (members : List (String × Json)) → ∀ value ∈ members.map Prod.snd, motive value
  | [] => List.forall_mem_nil _
  | (_, value) :: rest =>
    List.forall_mem_cons.mpr ⟨partsInduction step value, partsInduction_members step rest⟩
end

/-- A member as it is written. -/
def memberChars (member : String × Json) : List Char :=
  (quoted member.1).toList ++ ':' :: (compact member.2).toList

theorem toList_compactItems (items : List Json) :
    (compactItems items).toList = joined ',' (fun item ↦ (compact item).toList) items := by
  induction items with
  | nil => rfl
  | cons item rest ih =>
    cases rest with
    | nil => simp [compactItems, joined]
    | cons next rest => simp [compactItems, ih, joined]

theorem toList_compactMembers (members : List (String × Json)) :
    (compactMembers members).toList = joined ',' memberChars members := by
  induction members with
  | nil => rfl
  | cons member rest ih =>
    obtain ⟨key, value⟩ := member
    cases rest with
    | nil => simp [compactMembers, joined, memberChars]
    | cons next rest => simp [compactMembers, ih, joined, memberChars]

/-- The type of a document that starts with a character. -/
def typeOfStart (c : Char) : JsonType :=
  if c = 'n' then .null
  else if c = 't' ∨ c = 'f' then .boolean
  else if c = '"' then .string
  else if c = '[' then .array
  else if c = '\x7b' then .object
  else .number

/-- The first character of a document tells its type, and is never the end of a list. -/
theorem exists_compact_eq (value : Json) :
    ∃ c rest, (compact value).toList = c :: rest ∧ typeOfStart c = value.type ∧ c ≠ ']' := by
  cases value with
  | null => exact ⟨_, _, rfl, rfl, by decide⟩
  | bool truth => cases truth <;> exact ⟨_, _, rfl, rfl, by decide⟩
  | number n =>
    obtain ⟨c, rest, htext, hc⟩ := exists_numeral_eq n
    refine ⟨c, rest, by rw [compact, htext], ?_⟩
    rcases hc with hc | rfl
    · have hne : ∀ mark : Char, mark.isDigit = false → c ≠ mark :=
        fun mark ↦ Numeral.ne_of_isDigit hc
      simp [typeOfStart, type, hne]
    · exact ⟨rfl, by decide⟩
  | string s =>
    obtain ⟨rest, hrest⟩ := toList_quoted_eq s
    exact ⟨'"', rest, by rw [compact, hrest], rfl, by decide⟩
  | array items =>
    exact ⟨'[', _, by rw [compact, String.toList_append, String.toList_append]; rfl, rfl, by decide⟩
  | object members =>
    exact ⟨'\x7b', _, by rw [compact, String.toList_append, String.toList_append]; rfl, rfl,
      by decide⟩

theorem type_eq_of_compact_append_eq {a b : Json} {r t : List Char}
    (h : (compact a).toList ++ r = (compact b).toList ++ t) : a.type = b.type := by
  obtain ⟨c, rest, ha, hc, -⟩ := exists_compact_eq a
  obtain ⟨d, others, hb, hd, -⟩ := exists_compact_eq b
  rw [ha, hb] at h
  rw [← hc, ← hd, (List.cons.inj h).1]

/-- What follows a document does not go on as a numeral could. -/
def Stops (rest : List Char) : Prop := ∀ c ∈ rest.head?, Numeral.isMark c = false

theorem stops_cons {c : Char} (h : Numeral.isMark c = false) (rest : List Char) :
    Stops (c :: rest) := by
  simpa [Stops] using h

/-- A document is told apart from all others, and its end is known. -/
def ToldApart (a : Json) : Prop :=
  ∀ (b : Json) (r t : List Char), Stops r → Stops t →
    (compact a).toList ++ r = (compact b).toList ++ t → a = b ∧ r = t

/-- The end of a list is known, as no item starts like it. -/
theorem compactItems_append_inj {items others : List Json} {r t : List Char}
    (ih : ∀ item ∈ items, item.ToldApart)
    (h : (compactItems items).toList ++ ']' :: r = (compactItems others).toList ++ ']' :: t) :
    items = others ∧ r = t := by
  have hstart : ∀ (item : Json) r t, (compact item).toList ++ r ≠ ']' :: t := by
    intro item r t heq
    obtain ⟨c, rest, hc, -, hne⟩ := exists_compact_eq item
    rw [hc] at heq
    exact hne (List.cons.inj heq).1
  rw [toList_compactItems, toList_compactItems] at h
  obtain ⟨heq, hrest⟩ := joined_append_inj id (by decide)
    (stops_cons (c := ',') rfl) (stops_cons (c := ']') rfl) hstart
    (fun item hitem other _ ↦ ih item hitem other) h
  rw [List.map_id, List.map_id] at heq
  exact ⟨heq, hrest⟩

theorem compactMembers_append_inj {members others : List (String × Json)} {r t : List Char}
    (ih : ∀ value ∈ members.map Prod.snd, value.ToldApart)
    (h : (compactMembers members).toList ++ '\x7d' :: r =
      (compactMembers others).toList ++ '\x7d' :: t) : members = others ∧ r = t := by
  have hstart : ∀ (member : String × Json) r t, memberChars member ++ r ≠ '\x7d' :: t := by
    intro member r t heq
    obtain ⟨rest, hrest⟩ := toList_quoted_eq member.1
    rw [memberChars, hrest] at heq
    exact absurd (List.cons.inj heq).1 (by decide)
  have hmember : ∀ member ∈ members, ∀ other ∈ others, ∀ r t, Stops r → Stops t →
      memberChars member ++ r = memberChars other ++ t → member = other ∧ r = t := by
    intro member hmember other _ r t hr ht heq
    simp only [memberChars, List.append_assoc, List.cons_append] at heq
    obtain ⟨hkey, hvalue⟩ := quoted_append_inj heq
    obtain ⟨hvalue, hrest⟩ := ih member.2 (List.mem_map_of_mem hmember) other.2 r t hr ht
      (List.cons.inj hvalue).2
    exact ⟨Prod.ext hkey hvalue, hrest⟩
  rw [toList_compactMembers, toList_compactMembers] at h
  obtain ⟨heq, hrest⟩ := joined_append_inj id (by decide)
    (stops_cons (c := ',') rfl) (stops_cons (c := '\x7d') rfl) hstart hmember h
  rw [List.map_id, List.map_id] at heq
  exact ⟨heq, hrest⟩

/-- Documents are told apart by their compact texts. -/
theorem toldApart (a : Json) : a.ToldApart := by
  induction a using partsInduction with
  | step a ih =>
    intro b r t hr ht h
    have htype := type_eq_of_compact_append_eq h
    cases a with
    | null =>
      cases b with
      | null => exact ⟨rfl, List.append_cancel_left h⟩
      | _ => cases htype
    | bool truth =>
      cases b with
      | bool truth' =>
        cases truth <;> cases truth'
        · exact ⟨rfl, List.append_cancel_left h⟩
        · exact absurd (List.cons.inj h).1 (by decide)
        · exact absurd (List.cons.inj h).1 (by decide)
        · exact ⟨rfl, List.append_cancel_left h⟩
      | _ => cases htype
    | number n =>
      cases b with
      | number m =>
        obtain ⟨heq, hrest⟩ := append_inj_of_class Numeral.isMark (fun _ ↦ isMark_of_mem_numeral _)
          (fun _ ↦ isMark_of_mem_numeral _) hr ht h
        exact ⟨congrArg number (numeral_injective (String.toList_injective heq)), hrest⟩
      | _ => cases htype
    | string text =>
      cases b with
      | string text' =>
        obtain ⟨rfl, hrest⟩ := quoted_append_inj h
        exact ⟨rfl, hrest⟩
      | _ => cases htype
    | array items =>
      cases b with
      | array others =>
        simp only [compact, String.toList_append, List.append_assoc] at h
        obtain ⟨rfl, hrest⟩ := compactItems_append_inj ih (List.append_cancel_left h)
        exact ⟨rfl, hrest⟩
      | _ => cases htype
    | object members =>
      cases b with
      | object others =>
        simp only [compact, String.toList_append, List.append_assoc] at h
        obtain ⟨rfl, hrest⟩ := compactMembers_append_inj ih (List.append_cancel_left h)
        exact ⟨rfl, hrest⟩
      | _ => cases htype

end Json

end ToolSchema
