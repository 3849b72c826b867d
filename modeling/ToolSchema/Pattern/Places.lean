import ToolSchema.Pattern.Expr

/-!
# Matching by sets of places

The places of a text are the gaps before, between and after its characters. An expression without
memory maps a set of places to the set of places where a match from one of them can end. A set is
kept as a number whose bits are the places, so each map is computed in as many steps as the
expression has parts, times the length of the text for repetitions and for looks ahead.
-/

namespace ToolSchema.Pattern

structure Subject where
  chars : List Char

namespace Subject

def ofString (text : String) : Subject := ⟨text.toList⟩

def places (subject : Subject) : Nat := subject.chars.length + 1

def everywhere (subject : Subject) : Nat := (1 <<< subject.places) - 1

/-- The places whose next character is in a set. -/
def beforeSet (subject : Subject) (set : CharSet) : Nat :=
  subject.chars.foldr (fun c rest ↦ 2 * rest + (if set.has c then 1 else 0)) 0

/-- The places where an assertion holds, from a place with the given character before it. -/
def assertedFrom (assertion : Assertion) : Option Char → List Char → Nat
  | before, [] => if assertion.holds before none then 1 else 0
  | before, c :: rest =>
    2 * assertedFrom assertion (some c) rest + (if assertion.holds before (some c) then 1 else 0)

def asserted (subject : Subject) (assertion : Assertion) : Nat :=
  assertedFrom assertion none subject.chars

end Subject

/-- A map from sets of places to sets of places. -/
structure Image where
  apply : Nat → Nat

namespace Image

/-- The image under a map that is applied so many times. -/
def iterate (image : Image) : Nat → Nat → Nat
  | 0, places => places
  | n + 1, places => iterate image n (image.apply places)

/-- The images under a map that is applied at most so many times. -/
def reach (image : Image) : Nat → Nat → Nat
  | 0, places => places
  | n + 1, places =>
    let next := places ||| image.apply places
    if next = places then places else reach image n next

/-- The places from which a map leads anywhere. -/
def alive (image : Image) (count : Nat) : Nat :=
  (List.range count).foldl
    (fun found place ↦ if image.apply (1 <<< place) = 0 then found else found ||| (1 <<< place)) 0

end Image

namespace Expr

/-- The map of an expression on the places of a subject. Where all places have been tried, more
repetitions lead no further. What needs memory leads nowhere. -/
def image (subject : Subject) : Expr → Image
  | empty => ⟨fun places ↦ places⟩
  | set members =>
    let mask := subject.beforeSet members
    ⟨fun places ↦ 2 * (places &&& mask)⟩
  | assertion condition =>
    let mask := subject.asserted condition
    ⟨fun places ↦ places &&& mask⟩
  | sequence a b =>
    let first := a.image subject
    let second := b.image subject
    ⟨fun places ↦ second.apply (first.apply places)⟩
  | choice a b =>
    let first := a.image subject
    let second := b.image subject
    ⟨fun places ↦ first.apply places ||| second.apply places⟩
  | repetition a least most _ =>
    let body := a.image subject
    let count := subject.places
    ⟨fun places ↦
      let start := body.iterate (min least count) places
      match most with
      | none => body.reach count start
      | some most => body.reach (min (most - least) count) start⟩
  | group _ a => a.image subject
  | look false negative a =>
    let alive := (a.image subject).alive subject.places
    let mask := if negative then subject.everywhere ^^^ alive else alive
    ⟨fun places ↦ places &&& mask⟩
  | look true negative a =>
    let ends := (a.image subject).apply subject.everywhere
    let mask := if negative then subject.everywhere ^^^ ends else ends
    ⟨fun places ↦ places &&& mask⟩
  | searchStart => ⟨fun places ↦ places &&& 1⟩
  | keepOut => ⟨fun places ↦ places⟩
  | _ => ⟨fun _ ↦ 0⟩

end Expr

end ToolSchema.Pattern
