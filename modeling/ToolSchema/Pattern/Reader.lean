import ToolSchema.Pattern.Expr
import ToolSchema.Pattern.Brackets
import ToolSchema.Table

/-!
# Reading patterns

The grammar of patterns: choices between branches, branches of pieces, pieces of an atom and an
optional quantifier. Flags hold until the end of the group that lists them with a colon, and
otherwise until they are changed. Reading gives nothing for a text that is no pattern.

The readers spend one unit of fuel on each call. A text never needs more than a fixed number of
calls for each of its characters, which is what `Pattern.read?` provides.
-/

namespace ToolSchema.Pattern

/-- The flags that hold at a place of a pattern. -/
structure Flags where
  fold : Bool := false
  lines : Bool := false
  dotAll : Bool := false
  lazy : Bool := false
  spaced : Bool := false

namespace Flags

def set (flags : Flags) (value : Bool) : Char → Option Flags
  | 'i' => some { flags with fold := value }
  | 'm' => some { flags with lines := value }
  | 's' => some { flags with dotAll := value }
  | 'U' => some { flags with lazy := value }
  | 'x' => some { flags with spaced := value }
  | 'u' => if value then some flags else none
  | _ => none

end Flags

/-- What is left to read and what has been learned. `groups` counts the groups opened so far, and
`numbered` says whether some group has been referred to by number. -/
structure State where
  rest : List Char
  flags : Flags := {}
  groups : Nat := 0
  names : List (String × Nat) := []
  numbered : Bool := false
  referred : List Nat := []
  bound : Nat

namespace State

def move (state : State) (rest : List Char) : State := { state with rest := rest }

def openGroup (state : State) (rest : List Char) : State :=
  { state with rest := rest, groups := state.groups + 1 }

/-- The state in which a name stands for the group opened last. -/
def nameGroup (state : State) (name : List Char) : State :=
  { state with names := ToolSchema.insert (String.ofList name) state.groups state.names }

def refer (state : State) (group : Nat) : State :=
  { state with referred := group :: state.referred }

end State

/-- The rest behind a comment in parentheses. A backslash hides the character after it. -/
def afterComment : List Char → Option (List Char)
  | [] => none
  | ')' :: rest => some rest
  | '\\' :: _ :: rest => afterComment rest
  | _ :: rest => afterComment rest

/-- The rest behind blanks and comments, as far as they are allowed. -/
def afterBlanks (spaced : Bool) : Nat → List Char → Option (List Char)
  | 0, rest => some rest
  | fuel + 1, '(' :: '?' :: '#' :: rest => do
    let rest ← afterComment rest
    afterBlanks spaced fuel rest
  | fuel + 1, c :: rest =>
    if !spaced then some (c :: rest)
    else if c = '#' then afterBlanks spaced fuel ((rest.dropWhile (· ≠ '\n')).drop 1)
    else if c = ' ' || c = '\r' || c = '\n' || c = '\t' then afterBlanks spaced fuel rest
    else some (c :: rest)
  | _, [] => some []

def blanks (state : State) : Option State :=
  (afterBlanks state.flags.spaced (state.rest.length + 1) state.rest).map state.move

/-- A decimal number in front of the text, if it fits into 64 bits. -/
def number? (cs : List Char) : Option (Nat × List Char) :=
  let digits := cs.takeWhile Char.isDigit
  let value := digits.foldl (fun n c ↦ 10 * n + (c.toNat - '0'.toNat)) 0
  if digits.isEmpty || 0x10000000000000000 ≤ value then none
  else some (value, cs.dropWhile Char.isDigit)

/-- The bounds of a counted repetition, behind the opening brace. -/
def bounds? (state : State) : Option ((Nat × Option Nat) × State) := do
  let state ← blanks state
  let (least, state) ← match state.rest with
    | ',' :: _ => some (0, state)
    | rest => (number? rest).map fun (n, rest) ↦ (n, state.move rest)
  let state ← blanks state
  let (most, state) ← match state.rest with
    | '\x7d' :: _ => some (some least, state)
    | ',' :: rest => do
      let state ← blanks (state.move rest)
      match number? state.rest with
      | some (n, rest) => some (some n, state.move rest)
      | none => some (none, state)
    | _ => none
  let state ← blanks state
  match state.rest with
  | '\x7d' :: rest => some ((least, most), state.move rest)
  | _ => none

/-! ## Escapes -/

/-- What stands for one character or more behind a backslash. -/
inductive Escape where
  | token (token : Token)
  | expr (expr : Expr)

def isNameChar (c : Char) : Bool :=
  c = '_' || (UnicodeSet.property "alphabetic").has c || (UnicodeSet.category "n").has c

def hexValue (digits : List Char) : Nat :=
  digits.foldl (fun n c ↦ 16 * n +
    (if c.isDigit then c.toNat - '0'.toNat else c.toLower.toNat - 'a'.toNat + 10)) 0

def character? (code : Nat) : Option Char :=
  if code.isValidChar then some (Char.ofNat code) else none

/-- A character by its number: so many hexadecimal digits, or one to eight between braces. -/
def readCode (state : State) (width : Nat) : Option (Char × State) :=
  let isHex := CharSet.hexDigit.has
  let front := state.rest.take width
  if front.length = width && front.all isHex then
    (character? (hexValue front)).map fun c ↦ (c, state.move (state.rest.drop width))
  else
    match state.rest with
    | '\x7b' :: rest =>
      let digits := rest.takeWhile isHex
      match rest.dropWhile isHex with
      | '\x7d' :: rest =>
        if digits.isEmpty || 8 < digits.length then none
        else (character? (hexValue digits)).map fun c ↦ (c, state.move rest)
      | _ => none
    | _ => none

/-- The set of a name between braces, which may be a name and a value. -/
def namedSet? (name : List Char) : Option (Bool × UnicodeSet) :=
  let before (c : Char) := name.takeWhile (· ≠ c)
  let behind (c : Char) := (name.dropWhile (· ≠ c)).drop 1
  if name.contains '!' && (behind '!').head? = some '=' then
    (UnicodeSet.ofNameAndValue? (before '!') ((behind '!').drop 1)).map fun set ↦ (true, set)
  else if name.contains ':' then
    (UnicodeSet.ofNameAndValue? (before ':') (behind ':')).map fun set ↦ (false, set)
  else if name.contains '=' then
    (UnicodeSet.ofNameAndValue? (before '=') (behind '=')).map fun set ↦ (false, set)
  else (UnicodeSet.ofName? name).map fun set ↦ (false, set)

/-- A set with a Unicode name: one letter, or a name between braces. -/
def readNamedSet (state : State) (negate : Bool) : Option (CharSet × State) := do
  let ((negated, set), rest) ← match state.rest with
    | '\x7b' :: rest =>
      match rest.dropWhile (· ≠ '\x7d') with
      | _ :: behind => (namedSet? (rest.takeWhile (· ≠ '\x7d'))).map fun set ↦ (set, behind)
      | [] => none
    | '\\' :: _ => none
    | c :: rest =>
      (UnicodeSet.category? (String.ofList (UnicodeSet.normalize [c]))).map
        fun set ↦ ((false, set), rest)
    | [] => none
  some ((CharSet.unicode set).adjust state.flags.fold (negate != negated), state.move rest)

def readName (opening closing : Char) (cs : List Char) : Option (List Char × List Char) :=
  match cs with
  | c :: rest =>
    let name := rest.takeWhile isNameChar
    match rest.dropWhile isNameChar with
    | d :: behind =>
      if c = opening && d = closing && !name.isEmpty then some (name, behind) else none
    | [] => none
  | [] => none

/-- The group that a name or a number between two marks stands for. -/
def groupOf? (state : State) (name : List Char) : Option Nat :=
  (lookup (String.ofList name) state.names).or
    (match number? name with
      | some (n, []) => some n
      | _ => none)

/-- A reference to a group, by name, number, or distance from the group opened last. -/
def readReference (state : State) (opening closing : Char) : Option (Nat × State) :=
  match state.rest with
  | c :: '-' :: rest => do
    if c ≠ opening then none
    let (distance, rest) ← number? rest
    match rest with
    | d :: rest =>
      if d = closing && 0 < distance && distance ≤ state.groups then
        let group := state.groups + 1 - distance
        some (group, (state.move rest).refer group)
      else none
    | [] => none
  | _ => do
    let (name, rest) ← readName opening closing state.rest
    let group ← groupOf? state name
    some (group, (state.move rest).refer group)

/-- A reference to a group by number. The number must be below half the length of the pattern. -/
def readNumbered (state : State) : Option (Nat × State) := do
  let (group, rest) ← number? state.rest
  if group < state.bound then
    some (group, { (state.move rest).refer group with numbered := true })
  else none

def control? : Char → Option Char
  | 'a' => some '\x07'
  | 'e' => some '\x1b'
  | 'f' => some '\x0c'
  | 'n' => some '\n'
  | 'r' => some '\r'
  | 't' => some '\t'
  | 'v' => some '\x0b'
  | _ => none

/-- The sets that letters stand for. A capital letter stands for the complement. -/
def letterSet? (c : Char) : Option CharSet :=
  let base? := match c.toLower with
    | 'd' => some CharSet.decimal
    | 's' => some CharSet.blank
    | 'w' => some CharSet.word
    | _ => none
  base?.map fun set ↦ set.adjust false c.isUpper

/-- The conditions that characters stand for, outside of brackets. -/
def condition? : Char → Option Expr
  | 'A' => some (.assertion .textStart)
  | 'z' => some (.assertion .textEnd)
  | 'B' => some (.assertion .noWordBoundary)
  | '<' => some (.assertion .wordStart)
  | '>' => some (.assertion .wordEnd)
  | 'G' => some .searchStart
  | 'K' => some .keepOut
  | _ => none

/-- Reads what only makes sense outside of brackets, behind the backslash. -/
def readOutsideEscape (state : State) (c : Char) (rest : List Char) : Option (Expr × State) :=
  if c.isDigit then (readNumbered state).map fun (group, state) ↦ (.reference group, state)
  else
    match c, rest with
    | 'k', '\'' :: _ =>
      (readReference (state.move rest) '\'' '\'').map fun (group, state) ↦ (.reference group, state)
    | 'k', _ =>
      (readReference (state.move rest) '<' '>').map fun (group, state) ↦ (.reference group, state)
    | 'b', '\x7b' :: _ => none
    | 'b', _ => some (.assertion .wordBoundary, state.move rest)
    | _, _ => (condition? c).map fun expr ↦ (expr, state.move rest)

/-- Reads what makes sense everywhere, behind the backslash. -/
def readCommonEscape (state : State) (c : Char) (rest : List Char) : Option (Token × State) :=
  match letterSet? c, control? c, c with
  | some set, _, _ => some (.set set, state.move rest)
  | _, some control, _ => some (.escaped control, state.move rest)
  | _, _, 'h' => some (.nested .hexDigit, state.move rest)
  | _, _, 'H' => some (.nested (.negated .hexDigit), state.move rest)
  | _, _, 'x' => (readCode (state.move rest) 2).map fun (c, state) ↦ (.escaped c, state)
  | _, _, 'u' => (readCode (state.move rest) 4).map fun (c, state) ↦ (.escaped c, state)
  | _, _, 'U' => (readCode (state.move rest) 8).map fun (c, state) ↦ (.escaped c, state)
  | _, _, 'p' => (readNamedSet (state.move rest) false).map fun (set, state) ↦ (.set set, state)
  | _, _, 'P' => (readNamedSet (state.move rest) true).map fun (set, state) ↦ (.set set, state)
  | _, _, c => if c.isAlpha || 128 ≤ c.toNat then none else some (.escaped c, state.move rest)

def readEscape (state : State) : Option (Expr × State) :=
  match state.rest with
  | [] => none
  | c :: rest =>
    if c.isDigit || c = 'k' || c = 'b' || (condition? c).isSome then
      readOutsideEscape state c rest
    else
      (readCommonEscape state c rest).map fun (token, state) ↦
        let set := Brackets.item token
        match token with
        | .escaped _ => (.set (set.adjust state.flags.fold false), state)
        | _ => (.set set, state)

/-- Reads an escape inside brackets, behind the backslash. A digit would refer to a group, which
makes no sense there. -/
def readInnerEscape (state : State) : Option (Token × State) :=
  match state.rest with
  | [] => none
  | 'b' :: rest => some (.escaped '\x08', state.move rest)
  | c :: rest => if c.isDigit then none else readCommonEscape state c rest

/-! ## Brackets -/

/-- Reads tokens up to the bracket that closes `depth` others. -/
def readTokens : Nat → Nat → State → Option (List Token × State)
  | 0, _, _ => none
  | fuel + 1, depth, state =>
    match state.rest with
    | [] => none
    | '\\' :: rest => do
      let (token, state) ← readInnerEscape (state.move rest)
      let (tokens, state) ← readTokens fuel depth state
      some (token :: tokens, state)
    | '[' :: rest => do
      let (tokens, state) ← readTokens fuel (depth + 1) (state.move rest)
      some (.plain '[' :: tokens, state)
    | ']' :: rest =>
      match depth with
      | 0 => some ([.plain ']'], state.move rest)
      | depth + 1 => do
        let (tokens, state) ← readTokens fuel depth (state.move rest)
        some (.plain ']' :: tokens, state)
    | c :: rest => do
      let (tokens, state) ← readTokens fuel depth (state.move rest)
      some (.plain c :: tokens, state)

/-- Reads a set behind its opening bracket. A closing bracket that comes first stands for itself. -/
def readBrackets (state : State) : Option (Expr × State) := do
  let (front, rest) := match state.rest with
    | '^' :: ']' :: rest => ([Token.plain '^', .escaped ']'], rest)
    | ']' :: rest => ([.escaped ']'], rest)
    | '^' :: rest => ([.plain '^'], rest)
    | rest => ([], rest)
  let (tokens, state) ← readTokens (rest.length + 1) 0 (state.move rest)
  let set ← Brackets.read? state.flags.fold (front ++ tokens)
  some (.set set, state)

/-! ## Expressions -/

/-- Expressions one after the other, without those that are empty. -/
def sequenceOf : List Expr → Expr
  | [] => .empty
  | [e] => e
  | e :: rest => .sequence e (sequenceOf rest)

/-- A choice. An alternative that is a choice of its own is set apart. -/
def choiceOf : List Expr → Expr
  | [] => .empty
  | [.choice a b] => .sequence .empty (.choice a b)
  | [e] => e
  | e :: rest => .choice e (choiceOf rest)

def isRepeatable : Expr → Bool
  | .empty => false
  | .assertion _ => false
  | .look _ _ _ => false
  | _ => true

def closed (state : State) : Option State := do
  let state ← blanks state
  match state.rest with
  | ')' :: rest => some (state.move rest)
  | _ => none

def quantifier? (state : State) : Option ((Nat × Option Nat) × State) :=
  match state.rest with
  | '?' :: rest => some ((0, some 1), state.move rest)
  | '*' :: rest => some ((0, none), state.move rest)
  | '+' :: rest => some ((1, none), state.move rest)
  | '\x7b' :: rest => bounds? (state.move rest)
  | _ => none

/-- Puts a quantifier behind an expression, with the marks for few repetitions and for none given
up. -/
def quantify (atom : Expr) (state : State) : Option (Expr × State) :=
  match quantifier? state with
  | none => some (atom, state)
  | some ((least, most), state) =>
    if !isRepeatable atom then none
    else do
      let state ← blanks state
      let (marked, state) := match state.rest with
        | '?' :: rest => (true, state.move rest)
        | _ => (false, state)
      let repeated := Expr.repetition atom least most (marked == state.flags.lazy)
      match state.rest with
      | '+' :: rest => some (.atomic repeated, state.move rest)
      | _ => some (repeated, state)

/-- Parentheses nest less deeply than this. -/
def depthLimit : Nat := 64

mutual
/-- Reads a choice between branches. Names and numbers of groups do not go together. -/
def readChoice : Nat → Nat → State → Option (Expr × State)
  | 0, _, _ => none
  | fuel + 1, depth, state => do
    let (first, state) ← readBranch fuel depth state
    let state ← blanks state
    let (others, state) ← readOthers fuel depth state
    if others.isEmpty && state.numbered && !state.names.isEmpty then none
    else some (if others.isEmpty then first else choiceOf (first :: others), state)
termination_by structural fuel => fuel

def readOthers : Nat → Nat → State → Option (List Expr × State)
  | 0, _, _ => none
  | fuel + 1, depth, state =>
    match state.rest with
    | '|' :: rest => do
      let (branch, state) ← readBranch fuel depth (state.move rest)
      let state ← blanks state
      let (others, state) ← readOthers fuel depth state
      some (branch :: others, state)
    | _ => some ([], state)
termination_by structural fuel => fuel

def readBranch : Nat → Nat → State → Option (Expr × State)
  | 0, _, _ => none
  | fuel + 1, depth, state => do
    let (pieces, state) ← readPieces fuel depth state
    some (sequenceOf pieces, state)
termination_by structural fuel => fuel

/-- Reads pieces until one takes nothing. -/
def readPieces : Nat → Nat → State → Option (List Expr × State)
  | 0, _, _ => none
  | fuel + 1, depth, state =>
    if state.rest.isEmpty then some ([], state)
    else do
      let (piece, next) ← readPiece fuel depth state
      if next.rest.length = state.rest.length then some ([], state)
      else do
        let (pieces, next) ← readPieces fuel depth next
        some (if piece = .empty then pieces else piece :: pieces, next)
termination_by structural fuel => fuel

def readPiece : Nat → Nat → State → Option (Expr × State)
  | 0, _, _ => none
  | fuel + 1, depth, state => do
    let (atom, state) ← readAtom fuel depth state
    let state ← blanks state
    quantify atom state
termination_by structural fuel => fuel

def readAtom : Nat → Nat → State → Option (Expr × State)
  | 0, _, _ => none
  | fuel + 1, depth, state => do
    let state ← blanks state
    match state.rest with
    | [] => some (.empty, state)
    | '.' :: rest =>
      some (.set (if state.flags.dotAll then .all else .negated (.single '\n')), state.move rest)
    | '^' :: rest =>
      some (.assertion (if state.flags.lines then .lineStart else .textStart), state.move rest)
    | '$' :: rest =>
      some (.assertion (if state.flags.lines then .lineEnd else .textEnd), state.move rest)
    | '(' :: rest => readGroup fuel (depth + 1) (state.move rest)
    | '\\' :: rest => readEscape (state.move rest)
    | '[' :: rest => readBrackets (state.move rest)
    | c :: rest =>
      if c = '+' || c = '*' || c = '?' || c = '|' || c = ')' then some (.empty, state)
      else some (.set ((CharSet.single c).adjust state.flags.fold false), state.move rest)
termination_by structural fuel => fuel

def readGroup : Nat → Nat → State → Option (Expr × State)
  | 0, _, _ => none
  | fuel + 1, depth, state =>
    if depthLimit ≤ depth then none
    else do
      let state ← blanks state
      match state.rest with
      | '?' :: '=' :: rest => readBody fuel depth (.look false false) (state.move rest)
      | '?' :: '!' :: rest => readBody fuel depth (.look false true) (state.move rest)
      | '?' :: '<' :: '=' :: rest => readBody fuel depth (.look true false) (state.move rest)
      | '?' :: '<' :: '!' :: rest => readBody fuel depth (.look true true) (state.move rest)
      | '?' :: '<' :: rest => do
        let (name, rest) ← readName '<' '>' ('<' :: rest)
        let state := (state.openGroup rest).nameGroup name
        readBody fuel depth (.group state.groups) state
      | '?' :: 'P' :: '<' :: rest => do
        let (name, rest) ← readName '<' '>' ('<' :: rest)
        let state := (state.openGroup rest).nameGroup name
        readBody fuel depth (.group state.groups) state
      | '?' :: 'P' :: '=' :: rest => do
        let (name, rest) ← readName '(' ')' ('(' :: rest)
        let group ← groupOf? state name
        some (.reference group, (state.move rest).refer group)
      | '?' :: '>' :: rest => readBody fuel depth .atomic (state.move rest)
      | '?' :: '(' :: rest => readConditional fuel depth (state.move rest)
      | '?' :: rest => readFlags fuel depth state.flags true true (state.move rest)
      | rest =>
        let state := state.openGroup rest
        readBody fuel depth (.group state.groups) state
termination_by structural fuel => fuel

/-- Reads a choice up to a closing parenthesis. -/
def readBody : Nat → Nat → (Expr → Expr) → State → Option (Expr × State)
  | 0, _, _, _ => none
  | fuel + 1, depth, wrap, state => do
    let (body, state) ← readChoice fuel depth state
    let state ← closed state
    some (wrap body, state)
termination_by structural fuel => fuel

/-- Reads flags, and a choice that they hold for if a colon follows. `fresh` says that no flag
has been read yet. -/
def readFlags : Nat → Nat → Flags → Bool → Bool → State → Option (Expr × State)
  | 0, _, _, _, _, _ => none
  | fuel + 1, depth, before, value, fresh, state => do
    let state ← blanks state
    match state.rest with
    | [] => none
    | '-' :: rest =>
      if value then readFlags fuel depth before false fresh (state.move rest) else none
    | ')' :: rest => if fresh then none else some (.empty, state.move rest)
    | ':' :: rest =>
      if fresh && !value then none
      else do
        let (body, state) ← readChoice fuel depth (state.move rest)
        match state.rest with
        | ')' :: rest => some (body, { state with rest := rest, flags := before })
        | _ => none
    | c :: rest => do
      let flags ← state.flags.set value c
      readFlags fuel depth before value false { state with rest := rest, flags := flags }
termination_by structural fuel => fuel

/-- Reads a conditional behind the parenthesis of its condition. -/
def readConditional : Nat → Nat → State → Option (Expr × State)
  | 0, _, _ => none
  | fuel + 1, depth, state => do
    let (condition, state) ← match state.rest with
      | [] => none
      | '\'' :: _ =>
        (readReference state '\'' '\'').map fun (group, state) ↦ (Expr.reference group, state)
      | '<' :: _ =>
        (readReference state '<' '>').map fun (group, state) ↦ (.reference group, state)
      | c :: _ =>
        if c.isDigit then
          (readNumbered state).map fun (group, state) ↦ (.reference group, state)
        else readChoice fuel depth state
    let state ← closed state
    let (body, next) ← readChoice fuel depth state
    let test := match condition with
      | .reference group => Expr.matched group
      | condition => condition
    let next' ← closed next
    if next.rest.length = state.rest.length then
      match condition with
      | .reference _ => some (test, next')
      | _ => none
    else
      match body with
      | .choice yes no =>
        some (if yes = .empty && no = .empty then test else .conditional test yes no, next')
      | yes => some (if yes = .empty then test else .conditional test yes .empty, next')
termination_by structural fuel => fuel
end

/-- Reads a whole text as a pattern and checks that it can be matched. The second part of the result
lists the groups that are referred to. -/
def read? (source : String) : Option (Expr × List Nat) := do
  let cs := source.toList
  let start : State := { rest := cs, bound := source.utf8ByteSize / 2 }
  let (expr, state) ← readChoice (8 * cs.length + 16) 0 start
  if state.rest.isEmpty && (expr.check? state.referred 0).isSome then
    some (expr, state.referred)
  else none

end ToolSchema.Pattern
