/-!
# Files

Commands see files through a few operations, which may be those of a file system or those of a tree
kept in memory. Paths are texts with slashes; they start at the working directory.
-/

namespace ToolSchema.Command

inductive FileError where
  | notFound | alreadyExists | notDirectory | isDirectory | notText
  | other (message : String)
deriving DecidableEq

def FileError.message : FileError → String
  | notFound => "No such file or directory (os error 2)"
  | alreadyExists => "File exists (os error 17)"
  | notDirectory => "Not a directory (os error 20)"
  | isDirectory => "Is a directory (os error 21)"
  | notText => "stream did not contain valid UTF-8"
  | other message => message

structure FileAccess (m : Type → Type) where
  read : String → m (Except FileError String)
  write : String → String → m (Except FileError Unit)
  makeDirectory : String → m (Except FileError Unit)
  isPresent : String → m Bool
  isDirectory : String → m Bool
  entries : String → m (List String)

/-! ## Paths -/

/-- Drops slashes at the end, and dots between slashes there. A lone slash stays, and so does a dot
that is all of the path. The path is given from its end. -/
def dropBlankEnd : List Char → List Char
  | ['/'] => ['/']
  | '/' :: rest => dropBlankEnd rest
  | '.' :: '/' :: rest => dropBlankEnd ('/' :: rest)
  | path => path

/-- The path of the directory that a path lies in. A path without slashes lies in the empty path,
and the empty path and the root lie nowhere. -/
def parent? (path : String) : Option String :=
  match dropBlankEnd path.toList.reverse with
  | [] => none
  | ['/'] => none
  | ends => some (String.ofList (dropBlankEnd (ends.dropWhile (· ≠ '/'))).reverse)

def join (path name : String) : String :=
  if path = "" || path.toList.getLast? = some '/' then path ++ name else path ++ "/" ++ name

/-- Makes a directory and those above it, as far as they are not there. The fuel bounds how many of
them are made. -/
def makeDirectories {m : Type → Type} [Monad m] (files : FileAccess m) :
    Nat → String → m (Except FileError Unit)
  | 0, _ => pure (.error .notFound)
  | fuel + 1, path => do
    if path = "" then return .ok ()
    match ← files.makeDirectory path with
    | .ok () => return .ok ()
    | .error .notFound =>
      match parent? path with
      | none => return .error .notFound
      | some above =>
        match ← makeDirectories files fuel above with
        | .error error => return .error error
        | .ok () =>
          match ← files.makeDirectory path with
          | .ok () => return .ok ()
          | .error error =>
            if ← files.isDirectory path then return .ok () else return .error error
    | .error error =>
      if ← files.isDirectory path then return .ok () else return .error error

/-! ## Trees in memory -/

inductive FileTree where
  | file (text : String)
  | directory (entries : List (String × FileTree))

namespace FileTree

def entries? : FileTree → Option (List (String × FileTree))
  | file _ => none
  | directory entries => some entries

def child? (tree : FileTree) (name : String) : Option FileTree :=
  tree.entries?.bind (List.lookup name)

def find? : FileTree → List String → Option FileTree
  | tree, [] => some tree
  | tree, name :: rest => (tree.child? name).bind fun child ↦ find? child rest

/-- Puts an entry under a name, behind the others if the name is new. -/
def putEntry (name : String) (entry : FileTree) : List (String × FileTree) →
    List (String × FileTree)
  | [] => [(name, entry)]
  | (n, e) :: rest => if n = name then (n, entry) :: rest else (n, e) :: putEntry name entry rest

/-- The tree with something put under the given names; directories on the way are made. -/
def put : FileTree → List String → FileTree → FileTree
  | _, [], entry => entry
  | tree, name :: rest, entry =>
    let child := (tree.child? name).getD (directory [])
    directory (putEntry name (put child rest entry) (tree.entries?.getD []))

def parts : List Char → List String
  | [] => [""]
  | '/' :: rest => "" :: parts rest
  | c :: rest =>
    match parts rest with
    | [] => [String.singleton c]
    | part :: others => (String.singleton c ++ part) :: others

mutual
/-- The files of a tree with their texts, under a path. -/
def files (path : String) : FileTree → List (String × String)
  | file text => [(path, text)]
  | directory entries => entryFiles path entries

def entryFiles (path : String) : List (String × FileTree) → List (String × String)
  | [] => []
  | (name, entry) :: rest => files (join path name) entry ++ entryFiles path rest
end

def ofFiles (files : List (String × String)) : FileTree :=
  files.foldl (fun tree file ↦ tree.put (parts file.1.toList) (.file file.2)) (directory [])

/-- Follows the parts of a path from the given names on, the last name first. The names at the end
are given even if nothing stands there, as long as what they lie in is a directory. -/
def follow (root : FileTree) : List String → List String → Except FileError (List String)
  | names, [] => .ok names
  | names, part :: rest =>
    match root.find? names.reverse with
    | none => .error .notFound
    | some (file _) => .error .notDirectory
    | some (directory _) =>
      if part = "" || part = "." then follow root names rest
      else if part = ".." then follow root names.tail rest
      else follow root (part :: names) rest

/-- The names that a path leads to. Paths from the root of the file system lead nowhere. -/
def locate (root : FileTree) (path : String) : Except FileError (List String) :=
  if path = "" || path.toList.head? = some '/' then .error .notFound
  else (follow root [] (parts path.toList)).map List.reverse

def get (root : FileTree) (path : String) : Except FileError FileTree := do
  let names ← root.locate path
  match root.find? names with
  | some entry => .ok entry
  | none => .error .notFound

def read (root : FileTree) (path : String) : Except FileError String := do
  match ← root.get path with
  | file text => .ok text
  | directory _ => .error .isDirectory

/-- The tree with a text written to a file. A path with a slash at its end stands for no file. -/
def write (root : FileTree) (path text : String) : Except FileError FileTree := do
  let names ← root.locate (String.ofList (dropBlankEnd path.toList.reverse).reverse)
  if path.toList.getLast? = some '/' then .error .isDirectory
  else
    match root.find? names with
    | some (directory _) => .error .isDirectory
    | _ => .ok (root.put names (file text))

def makeDirectory (root : FileTree) (path : String) : Except FileError FileTree := do
  let names ← root.locate path
  match root.find? names with
  | some _ => .error .alreadyExists
  | none => .ok (root.put names (directory []))

/-- Changes the tree if an operation on it succeeds. -/
def update (operation : FileTree → Except FileError FileTree) :
    StateM FileTree (Except FileError Unit) := do
  match operation (← getThe FileTree) with
  | .ok tree => MonadState.set tree; return .ok ()
  | .error error => return .error error

def access : FileAccess (StateM FileTree) where
  read path := do return (← getThe FileTree).read path
  write path text := update fun tree ↦ tree.write path text
  makeDirectory path := update fun tree ↦ tree.makeDirectory path
  isPresent path := do return ((← getThe FileTree).get path).isOk
  isDirectory path := do
    match (← getThe FileTree).get path with
    | .ok (directory _) => return true
    | _ => return false
  entries path := do
    match (← getThe FileTree).get path with
    | .ok (directory entries) => return entries.map Prod.fst
    | _ => return []

end FileTree

end ToolSchema.Command
