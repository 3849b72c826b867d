import ToolSchema.Pattern.Places

/-!
# Matching by backtracking

An expression with memory is matched by trying alternatives in order, each with what follows it,
until one succeeds. What a group took is remembered for the references to it. A regular expression
that nothing after it can send back for another match keeps its first match. Every return to an
alternative is paid for from a budget; where the budget is spent, there is no match.
-/

namespace ToolSchema.Pattern

/-- Where groups started and stopped, the latest first. -/
structure Memory where
  starts : List (Nat × Nat) := []
  stops : List (Nat × Nat) := []

/-- How an attempt ended, with what is left of the budget. -/
inductive Outcome where
  | found (place : Nat) (memory : Memory) (budget : Nat)
  | failed (budget : Nat)
  | exhausted

abbrev Continuation := Nat → Memory → Nat → Outcome

namespace Outcome

def orElse (outcome : Outcome) (alternative : Nat → Outcome) : Outcome :=
  match outcome with
  | failed (budget + 1) => alternative budget
  | failed 0 => exhausted
  | outcome => outcome

/-- Goes on from a match that gives up its alternatives. -/
def andThen (outcome : Outcome) (next : Continuation) : Outcome :=
  match outcome with
  | found place memory budget => next place memory budget
  | outcome => outcome

end Outcome

/-- Matches between a body and its repetitions, at most `fuel` of them. `count` repetitions have
been made, the last one from `last` on; a body that may be empty must not be repeated in place. -/
def repeated (body : Nat → Memory → Nat → Continuation → Outcome) (least : Nat)
    (most : Option Nat) (greedy mayBeEmpty : Bool) (next : Continuation) :
    Nat → Nat → Option Nat → Nat → Memory → Nat → Outcome
  | 0, _, _, _, _, budget => .failed budget
  | fuel + 1, count, last, place, memory, budget =>
    if most = some count then next place memory budget
    else if mayBeEmpty && most.isNone && least < count && last == some place then .failed budget
    else
      let again (budget : Nat) := body place memory budget fun place' memory' budget' ↦
        repeated body least most greedy mayBeEmpty next fuel (count + 1) (some place) place'
          memory' budget'
      if count < least then again budget
      else if greedy then (again budget).orElse fun budget ↦ next place memory budget
      else (next place memory budget).orElse again

/-- Tries a body from the places before a place, the nearest first. -/
def behind (body : Nat → Memory → Nat → Continuation → Outcome) (memory : Memory)
    (next : Continuation) : Nat → Nat → Outcome
  | 0, budget => body 0 memory budget next
  | place + 1, budget =>
    (body (place + 1) memory budget next).orElse (behind body memory next place)

def slice (chars : Array Char) (start stop : Nat) : List Char := (chars.extract start stop).toList

def isSequence : Expr → Bool
  | .sequence _ _ => true
  | _ => false

/-- The number of repetitions that are worth trying. -/
def repetitionLimit (size least : Nat) (most : Option Nat) : Nat :=
  match most with
  | some most => most + 2
  | none => least + size + 3

namespace Expr

/-- Matches an expression from a place and goes on with `next`. `free` says that nothing which
follows can ask for another match, so that a regular expression keeps its first one. -/
def match? (subject : Subject) (chars : Array Char) (referred : List Nat) :
    Expr → Bool → Nat → Memory → Nat → Continuation → Outcome
  | empty, _, place, memory, budget, next => next place memory budget
  | set members, _, place, memory, budget, next =>
    match chars[place]? with
    | some c => if members.has c then next (place + 1) memory budget else .failed budget
    | none => .failed budget
  | assertion condition, _, place, memory, budget, next =>
    let before := if place = 0 then none else chars[place - 1]?
    if condition.holds before chars[place]? then next place memory budget else .failed budget
  | sequence a b, free, place, memory, budget, next =>
    if free && (sequence a b).isRegular referred then
      if ((sequence a b).image subject).apply (1 <<< place) = 0 then .failed budget
      else
        (a.match? subject chars referred false place memory budget
          fun place memory budget ↦
            b.match? subject chars referred false place memory budget .found).andThen next
    else
      a.match? subject chars referred false place memory budget fun place memory budget ↦
        b.match? subject chars referred (free && (isSequence b || b.isRegular referred)) place
          memory budget next
  | choice a b, free, place, memory, budget, next =>
    if free && (choice a b).isRegular referred then
      if ((choice a b).image subject).apply (1 <<< place) = 0 then .failed budget
      else
        ((a.match? subject chars referred false place memory budget .found).orElse fun budget ↦
          b.match? subject chars referred false place memory budget .found).andThen next
    else
      (a.match? subject chars referred free place memory budget next).orElse fun budget ↦
        b.match? subject chars referred free place memory budget next
  | repetition a least most greedy, free, place, memory, budget, next =>
    let limit := repetitionLimit chars.size least most
    let lower := match most with
      | some most => min least most
      | none => least
    let mayBeEmpty := a.leastLength = 0
    if free && a.isRegular referred then
      if ((repetition a least most greedy).image subject).apply (1 <<< place) = 0 then
        .failed budget
      else
        (repeated (a.match? subject chars referred false) lower most greedy mayBeEmpty .found limit
          0 none place memory budget).andThen next
    else
      repeated (a.match? subject chars referred (free && most == some 1 && lower == 0)) lower most
        greedy mayBeEmpty next limit 0 none place memory budget
  | group index a, free, place, memory, budget, next =>
    let opened := { memory with starts := (index, place) :: memory.starts }
    a.match? subject chars referred free place opened budget fun stop memory budget ↦
      next stop { memory with stops := (index, stop) :: memory.stops } budget
  | look false false a, _, place, memory, budget, next =>
    a.match? subject chars referred true place memory budget fun _ memory budget ↦
      next place memory budget
  | look false true a, _, place, memory, budget, next =>
    match a.match? subject chars referred true place memory budget .found with
    | .found _ _ budget => .failed budget
    | .failed budget => next place memory budget
    | .exhausted => .exhausted
  | look true false a, _, place, memory, budget, next =>
    behind (a.match? subject chars referred true) memory
      (fun stop memory budget ↦ if stop = place then next place memory budget else .failed budget)
      place budget
  | look true true a, _, place, memory, budget, next =>
    match behind (a.match? subject chars referred true) memory
      (fun stop memory budget ↦ if stop = place then .found stop memory budget
        else .failed budget) place budget with
    | .found _ _ budget => .failed budget
    | .failed budget => next place memory budget
    | .exhausted => .exhausted
  | atomic a, _, place, memory, budget, next =>
    (a.match? subject chars referred true place memory budget .found).andThen next
  | reference index, _, place, memory, budget, next =>
    match memory.starts.lookup index, memory.stops.lookup index with
    | some start, some stop =>
      let length := stop - start
      if slice chars place (place + length) = slice chars start stop then
        next (place + length) memory budget
      else .failed budget
    | _, _ => .failed budget
  | matched index, _, place, memory, budget, next =>
    if (memory.starts.lookup index).isSome then next place memory budget else .failed budget
  | conditional test yes no, free, place, memory, budget, next =>
    match test.match? subject chars referred free place memory budget .found with
    | .found place memory budget => yes.match? subject chars referred free place memory budget next
    | .failed budget => no.match? subject chars referred free place memory budget next
    | .exhausted => .exhausted
  | searchStart, _, place, memory, budget, next =>
    if place = 0 then next place memory budget else .failed budget
  | keepOut, _, place, memory, budget, next => next place memory budget

/-- Searches from the given number of places on, the first one first. -/
def search (subject : Subject) (chars : Array Char) (referred : List Nat) (expr : Expr) :
    Nat → Nat → Nat → Outcome
  | 0, _, budget => .failed budget
  | count + 1, place, budget =>
    (expr.match? subject chars referred false place {} budget .found).orElse
      (search subject chars referred expr count (place + 1))

end Expr

end ToolSchema.Pattern
