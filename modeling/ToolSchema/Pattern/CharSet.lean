import ToolSchema.Text.Blank
import ToolSchema.Unicode.Word
import ToolSchema.Unicode.CaseFolding
import ToolSchema.Unicode.Category
import ToolSchema.Unicode.Script
import ToolSchema.Unicode.Property

/-!
# Sets of characters

What a pattern accepts in one place is a set of characters, kept as an expression over ranges, named
sets and the operations of set algebra. Folding closes a set under case variants; where a set is
folded and negated, it is folded first.
-/

namespace ToolSchema

/-- A set of characters with a Unicode name. Names are in lower case, without separators. -/
inductive UnicodeSet where
  | category (name : String)
  | script (name : String)
  | property (name : String)
deriving DecidableEq

namespace UnicodeSet

def has : UnicodeSet → Char → Bool
  | category name, c => ((Unicode.categoryTest? name).map fun test ↦ test c.toNat).getD false
  | script name, c => ((Unicode.script? name).map fun ranges ↦ ranges.has c.toNat).getD false
  | property name, c => ((Unicode.property? name).map fun ranges ↦ ranges.has c.toNat).getD false

def category? (name : String) : Option UnicodeSet :=
  (Unicode.categoryTest? name).map fun _ ↦ category name

def script? (name : String) : Option UnicodeSet := (Unicode.script? name).map fun _ ↦ script name

def property? (name : String) : Option UnicodeSet :=
  (Unicode.property? name).map fun _ ↦ property name

/-- A name in lower case, without blanks, hyphens and underscores, and without a leading `is`. -/
def normalize (name : List Char) : List Char :=
  let plain := (name.filter fun c ↦ c.toNat < 128 && c ≠ ' ' && c ≠ '_' && c ≠ '-').map Char.toLower
  match plain with
  | ['i', 's', 'c'] => plain
  | 'i' :: 's' :: rest => if (name.take 2).map Char.toLower = ['i', 's'] then rest else plain
  | _ => plain

/-- The set of a name that stands alone. Three short names are categories rather than properties. -/
def ofName? (name : List Char) : Option UnicodeSet :=
  let plain := String.ofList (normalize name)
  let own := if ["cf", "sc", "lc"].contains plain then none else property? plain
  (own.or (category? plain)).or (script? plain)

def ofNameAndValue? (name value : List Char) : Option UnicodeSet :=
  let plain := String.ofList (normalize value)
  match String.ofList (normalize name) with
  | "generalcategory" => category? plain
  | "gc" => category? plain
  | "script" => script? plain
  | "sc" => script? plain
  | _ => none

end UnicodeSet

inductive CharSet where
  | empty
  | range (first last : Char)
  | decimal
  | blank
  | word
  | unicode (set : UnicodeSet)
  | union (a b : CharSet)
  | intersection (a b : CharSet)
  | difference (a b : CharSet)
  | symmetric (a b : CharSet)
  | negated (a : CharSet)
  | folded (a : CharSet)
deriving DecidableEq

namespace CharSet

def has : CharSet → Char → Bool
  | empty, _ => false
  | range first last, c => first ≤ c && c ≤ last
  | decimal, c => Unicode.isDecimal c
  | blank, c => Text.isBlank c
  | word, c => Unicode.isWord c
  | unicode set, c => set.has c
  | union a b, c => a.has c || b.has c
  | intersection a b, c => a.has c && b.has c
  | difference a b, c => a.has c && !b.has c
  | symmetric a b, c => a.has c != b.has c
  | negated a, c => !a.has c
  | folded a, c => a.has c || (Unicode.variants c).any a.has

def single (c : Char) : CharSet := range c c

def all : CharSet := negated empty

def ofList (sets : List CharSet) : CharSet := sets.foldl union empty

/-- The set folded if `fold` says so, then negated if `negate` says so. -/
def adjust (fold negate : Bool) (set : CharSet) : CharSet :=
  let set := if fold then folded set else set
  if negate then negated set else set

def hexDigit : CharSet := ofList [range '0' '9', range 'A' 'F', range 'a' 'f']

def letter : CharSet := union (range 'A' 'Z') (range 'a' 'z')

/-- The sets that have a name between brackets and colons. -/
def named? (name : String) : Option CharSet :=
  match name with
  | "alnum" => some (union (range '0' '9') letter)
  | "alpha" => some letter
  | "ascii" => some (range '\x00' '\x7f')
  | "blank" => some (union (single '\t') (single ' '))
  | "cntrl" => some (union (range '\x00' '\x1f') (single '\x7f'))
  | "digit" => some (range '0' '9')
  | "graph" => some (range '!' '~')
  | "lower" => some (range 'a' 'z')
  | "print" => some (range ' ' '~')
  | "punct" =>
    some (ofList [range '!' '/', range ':' '@', range '[' '\x60', range '\x7b' '~'])
  | "space" => some (union (range '\t' '\r') (single ' '))
  | "upper" => some (range 'A' 'Z')
  | "word" => some (ofList [range '0' '9', letter, single '_'])
  | "xdigit" => some hexDigit
  | _ => none

end CharSet

end ToolSchema
