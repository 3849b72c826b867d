import ToolSchema.Command.Files

/-!
# Globs

A glob is a path in which `?` stands for any character, `*` for any characters, `[…]` for one
character of some, `[!…]` for one of all others, and `**` as a whole part of the path for any
directories. It is read into its parts and then followed through the directories; matches come in
the alphabetical order of the names, a directory before what it holds.
-/

namespace ToolSchema.Command

namespace Glob

/-- What a part of a glob asks of a name, piece by piece. -/
inductive Token where
  | char (c : Char)
  | anyChar
  | anyText
  | anyDirectories
  | within (ranges : List (Char × Char))
  | outside (ranges : List (Char × Char))
deriving DecidableEq

inductive Fault where
  | wildcards | recursiveWildcard | range
deriving DecidableEq

namespace Fault

def message : Fault → String
  | wildcards => "wildcards are either regular \x60*\x60 or recursive \x60**\x60"
  | recursiveWildcard => "recursive wildcards must form a single path component"
  | range => "invalid range pattern"

end Fault

end Glob

/-- What is wrong with a glob, and near which character. -/
structure GlobError where
  fault : Glob.Fault
  position : Nat
deriving DecidableEq

def GlobError.message (error : GlobError) : String :=
  "Pattern syntax error near position " ++ toString error.position ++ ": " ++ error.fault.message

namespace Glob

/-! ## Reading -/

/-- The ranges between brackets: two ends with a hyphen between them, or single characters. -/
def ranges : List Char → List (Char × Char)
  | low :: '-' :: high :: rest => (low, high) :: ranges rest
  | c :: rest => (c, c) :: ranges rest
  | [] => []

/-- Ends a range at the first closing bracket behind its first character. -/
def closeRange (make : List (Char × Char) → Token) (first : Char) (cs : List Char) :
    Option (Token × List Char) :=
  match cs.dropWhile (· ≠ ']') with
  | [] => none
  | _ :: rest => some (make (ranges (first :: cs.takeWhile (· ≠ ']'))), rest)

/-- The range behind an opening bracket, and what follows it. -/
def readRange : List Char → Option (Token × List Char)
  | '!' :: first :: rest => closeRange .outside first rest
  | ['!'] => none
  | first :: rest => closeRange .within first rest
  | [] => none

theorem length_of_closeRange {make : List (Char × Char) → Token} {first : Char}
    {cs rest : List Char} {token : Token} (h : closeRange make first cs = some (token, rest)) :
    rest.length < cs.length := by
  unfold closeRange at h
  split at h
  · simp at h
  · next tail hcs =>
    have hle := (List.dropWhile_sublist (l := cs) (· ≠ ']')).length_le
    simp only [Option.some.injEq, Prod.mk.injEq] at h
    rw [hcs, List.length_cons, h.2] at hle
    omega

theorem length_of_readRange {cs rest : List Char} {token : Token}
    (h : readRange cs = some (token, rest)) : rest.length < cs.length := by
  unfold readRange at h
  split at h
  · have := length_of_closeRange h
    simp only [List.length_cons]
    omega
  · simp at h
  · have := length_of_closeRange h
    simp only [List.length_cons]
    omega
  · simp at h

/-- Reads a glob of the given size from some place in it on; `before` is the character in front of
that place. -/
def tokens (size : Nat) (before : Option Char) (cs : List Char) :
    Except GlobError (List Token) :=
  match cs with
  | [] => .ok []
  | '?' :: rest => (tokens size (some '?') rest).map (.anyChar :: ·)
  | '*' :: '*' :: '*' :: rest => .error ⟨.wildcards, size - (rest.length + 1)⟩
  | '*' :: '*' :: rest =>
    if before.all (· = '/') then
      match rest with
      | [] => .ok [.anyDirectories]
      | '/' :: later => (tokens size (some '/') later).map (.anyDirectories :: ·)
      | _ => .error ⟨.recursiveWildcard, size - rest.length⟩
    else .error ⟨.recursiveWildcard, size - (rest.length + 3)⟩
  | '*' :: rest => (tokens size (some '*') rest).map (.anyText :: ·)
  | '[' :: rest =>
    match h : readRange rest with
    | some (token, later) => (tokens size (some ']') later).map (token :: ·)
    | none => .error ⟨.range, size - (rest.length + 1)⟩
  | c :: rest => (tokens size (some c) rest).map (.char c :: ·)
termination_by cs.length
decreasing_by
  all_goals simp only [List.length_cons]
  all_goals try have := length_of_readRange h
  all_goals omega

/-- A part of a glob: a name as it stands, any directories, or what a name must match. -/
inductive Part where
  | name (name : String)
  | directories
  | shape (tokens : List Token)
deriving DecidableEq

/-- The name that single characters spell. -/
def spelling? : List Token → Option (List Char)
  | [] => some []
  | .char c :: rest => (spelling? rest).map (c :: ·)
  | _ => none

/-- The part that was read from a piece between slashes. -/
def Part.ofTokens (ts : List Token) : Part :=
  match spelling? ts with
  | some cs => .name (String.ofList cs)
  | none => if ts = [.anyDirectories] then .directories else .shape ts

end Glob

/-- A glob: the directory it starts from, its parts, and whether only directories match. -/
structure Glob where
  start : String
  parts : List Glob.Part
  onlyDirectories : Bool

namespace Glob

def isGlob (text : String) : Bool :=
  text.toList.any fun c ↦ c = '*' || c = '?' || c = '[' || c = '\x7b'

/-- The pieces of a text, each of which ends at a slash or at the end. -/
def pieces : List Char → List (List Char)
  | [] => []
  | '/' :: rest => [] :: pieces rest
  | c :: rest =>
    match pieces rest with
    | [] => [[c]]
    | piece :: others => (c :: piece) :: others

/-- Reads a glob. It must make sense as a whole, and so must its parts. -/
def read (text : String) : Except GlobError Glob := do
  let cs := text.toList
  let _ ← tokens cs.length none cs
  let fromRoot := cs.head? = some '/'
  let parts ← (pieces (if fromRoot then cs.tail else cs)).mapM fun piece ↦ do
    .ok (Part.ofTokens (← tokens piece.length none piece))
  .ok ⟨if fromRoot then "/" else ".", parts, cs.getLast? = some '/'⟩

/-! ## Matching -/

def inRanges (c : Char) (ranges : List (Char × Char)) : Bool :=
  ranges.any fun range ↦ range.1 ≤ c && c ≤ range.2

/-- What is left of a text after each number of characters. -/
def suffixes : List Char → List (List Char)
  | [] => [[]]
  | c :: rest => (c :: rest) :: suffixes rest

/-- Whether a name is as tokens ask. -/
def fits : List Token → List Char → Bool
  | [], cs => cs.isEmpty
  | .anyText :: ts, cs => (suffixes cs).any (fits ts)
  | .anyDirectories :: ts, cs => (suffixes cs).any (fits ts)
  | .anyChar :: ts, _ :: cs => fits ts cs
  | .char c :: ts, d :: cs => c = d && fits ts cs
  | .within ranges :: ts, c :: cs => inRanges c ranges && fits ts cs
  | .outside ranges :: ts, c :: cs => !inRanges c ranges && fits ts cs
  | _ :: _, [] => false

/-- Whether a part is matched by a name in a directory. -/
def Part.admits (part : Part) (name : String) : Bool :=
  match part with
  | .name text => text = name
  | .directories => true
  | .shape ts => fits ts name.toList

/-- The names of a directory for itself and for the one above that a part asks for. These must be
asked for by a dot. -/
def Part.specialNames : Part → List String
  | .shape (.char '.' :: ts) => ["..", "."].filter fun name ↦ fits (.char '.' :: ts) name.toList
  | _ => []

/-! ## Expansion -/

variable {m : Type → Type} [Monad m]

/-- A path for the answer. -/
def keep (files : FileAccess m) (onlyDirectories : Bool) (path : String) : m (List String) := do
  if onlyDirectories then
    return if ← files.isDirectory path then [path] else []
  else return [path]

/-- The path of a name in a directory. The working directory is left out of it. -/
def inDirectory (path name : String) : String := if path = "." then name else join path name

/-- The paths under a directory that match the parts. The fuel bounds how deep the directories are
followed. -/
def under (files : FileAccess m) (onlyDirectories : Bool) :
    Nat → List Part → String → m (List String)
  | 0, _, _ => return []
  | _, [], _ => return []
  | fuel + 1, part :: later, path => do
    let follow (parts : List Part) (path : String) : m (List String) :=
      match parts with
      | [] => keep files onlyDirectories path
      | _ => under files onlyDirectories fuel parts path
    let sorted : m (List String) := do
      return (← files.entries path).mergeSort fun a b ↦ !decide (b < a)
    match part with
    | .name name =>
      let there ←
        if name = "." || name = ".." then files.isDirectory path
        else files.isPresent (inDirectory path name)
      if there then follow later (inDirectory path name) else return []
    | .shape ts =>
      if ← files.isDirectory path then
        let special ← (Part.specialNames (.shape ts)).mapM fun name ↦
          follow later (join path name)
        let found ← (← sorted).mapM fun name ↦
          if fits ts name.toList then follow later (inDirectory path name) else return []
        return (special ++ found).flatten
      else return []
    | .directories =>
      let next := later.dropWhile (· = .directories)
      if ← files.isDirectory path then
        let found ← (← sorted).mapM fun name ↦ do
          let child := inDirectory path name
          let directory ← files.isDirectory child
          let itself ←
            match next with
            | [] => pure (if directory then [child] else [])
            | part :: rest => if part.admits name then follow rest child else pure []
          let inside ←
            if directory then under files onlyDirectories fuel (.directories :: next) child
            else pure []
          return itself ++ inside
        return found.flatten
      else return []

/-- How deep directories are followed: no path is longer than this. -/
def maxDepth : Nat := 4096

def paths (files : FileAccess m) (glob : Glob) : m (List String) :=
  under files glob.onlyDirectories maxDepth glob.parts glob.start

end Glob

end ToolSchema.Command
