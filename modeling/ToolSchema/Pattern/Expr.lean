import ToolSchema.Pattern.CharSet

/-!
# Pattern expressions

The structure of a pattern after reading: sets of characters and assertions, put together by
sequence, choice and repetition; groups that remember what they matched, references to them, looks
ahead and behind, groups that give up their alternatives, and conditionals.

An expression is *regular* if it needs none of the things that a finite automaton lacks. A
repetition of a regular expression must not have an upper bound below its lower one, and what is
looked for behind a place must have one length, at most up to a choice.
-/

namespace ToolSchema

namespace Pattern

/-- A condition on a place between characters. -/
inductive Assertion where
  | textStart | textEnd | lineStart | lineEnd
  | wordBoundary | noWordBoundary | wordStart | wordEnd
deriving DecidableEq

namespace Assertion

/-- Whether the condition holds between two characters, either of which may be lacking. -/
def holds (assertion : Assertion) (before after : Option Char) : Bool :=
  let left := before.any Unicode.isWord
  let right := after.any Unicode.isWord
  match assertion with
  | textStart => before.isNone
  | textEnd => after.isNone
  | lineStart => before.all (· = '\n')
  | lineEnd => after.all (· = '\n')
  | wordBoundary => left != right
  | noWordBoundary => left == right
  | wordStart => !left && right
  | wordEnd => left && !right

end Assertion

/-- A pattern expression. Without an upper bound a repetition is unlimited. -/
inductive Expr where
  | empty
  | set (set : CharSet)
  | assertion (assertion : Assertion)
  | sequence (first second : Expr)
  | choice (first second : Expr)
  | repetition (body : Expr) (least : Nat) (most : Option Nat) (greedy : Bool)
  | group (index : Nat) (body : Expr)
  | look (behind negative : Bool) (body : Expr)
  | atomic (body : Expr)
  | reference (index : Nat)
  | matched (index : Nat)
  | conditional (condition yes no : Expr)
  | searchStart
  | keepOut
deriving DecidableEq

namespace Expr

/-- Whether an expression needs no more than a finite automaton; groups that are referred to count
as irregular. -/
def isRegular (referred : List Nat) : Expr → Bool
  | empty => true
  | set _ => true
  | assertion _ => true
  | sequence a b => a.isRegular referred && b.isRegular referred
  | choice a b => a.isRegular referred && b.isRegular referred
  | repetition a _ _ _ => a.isRegular referred
  | group i a => !referred.contains i && a.isRegular referred
  | _ => false

/-- Whether what a match remembers or gives up can change what follows. -/
def hasMemory : Expr → Bool
  | sequence a b => a.hasMemory || b.hasMemory
  | choice a b => a.hasMemory || b.hasMemory
  | repetition a _ _ _ => a.hasMemory
  | group _ a => a.hasMemory
  | look _ _ a => a.hasMemory
  | atomic _ => true
  | reference _ => true
  | matched _ => true
  | conditional _ _ _ => true
  | _ => false

def leastLength : Expr → Nat
  | set _ => 1
  | sequence a b => a.leastLength + b.leastLength
  | choice a b => min a.leastLength b.leastLength
  | repetition a least _ _ => least * a.leastLength
  | group _ a => a.leastLength
  | atomic a => a.leastLength
  | conditional c yes no => c.leastLength + min yes.leastLength no.leastLength
  | _ => 0

/-- Whether all matches take the same number of characters. -/
def hasOneLength : Expr → Bool
  | sequence a b => a.hasOneLength && b.hasOneLength
  | choice a b => a.hasOneLength && b.hasOneLength && a.leastLength == b.leastLength
  | repetition a least most _ => a.hasOneLength && most == some least
  | group _ a => a.hasOneLength
  | atomic a => a.hasOneLength
  | reference _ => false
  | conditional c yes no =>
    c.hasOneLength && yes.hasOneLength && no.hasOneLength && yes.leastLength == no.leastLength
  | _ => true

def alternativesHaveOneLength : Expr → Bool
  | choice a b => a.alternativesHaveOneLength && b.alternativesHaveOneLength
  | a => a.hasOneLength

/-- Counts from here on are out of reach. -/
def countLimit : Nat := 0x100000000

def isRange (least : Nat) : Option Nat → Bool
  | none => least < countLimit
  | some most => least ≤ most && most < countLimit

/-- Whether an expression can be matched: references are to groups opened before, repetitions of
regular expressions have sensible bounds, and what is looked for behind has one length. `opened` is
the number of groups opened before the expression; the result is the number after it. -/
def check? (referred : List Nat) : Expr → Nat → Option Nat
  | empty, opened => some opened
  | set _, opened => some opened
  | assertion _, opened => some opened
  | sequence a b, opened => (check? referred a opened).bind fun opened ↦ check? referred b opened
  | choice a b, opened => (check? referred a opened).bind fun opened ↦ check? referred b opened
  | repetition a least most _, opened =>
    if a.isRegular referred && !isRange least most then none else check? referred a opened
  | group _ a, opened => check? referred a (opened + 1)
  | look behind _ a, opened =>
    if behind && !a.alternativesHaveOneLength then none else check? referred a opened
  | atomic a, opened => check? referred a opened
  | reference i, opened => if i ≤ opened then some opened else none
  | matched i, opened => if i ≤ opened then some opened else none
  | conditional c yes no, opened =>
    ((check? referred c opened).bind fun opened ↦ check? referred yes opened).bind
      fun opened ↦ check? referred no opened
  | searchStart, opened => some opened
  | keepOut, opened => some opened

end Expr

end Pattern

end ToolSchema
