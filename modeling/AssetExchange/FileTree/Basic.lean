import AssetExchange.FileTree.Path

/-!
# Trees of files

A tree holds directories and files below its top. Paths are followed name by name: a
name can only be looked up in a directory, two points lead back, and one point, like an
empty name, stays. What lies above the top is a directory of which nothing is known.

`makeDirectories` makes a directory with all that it lacks above it, and `save` writes
a file after making the directories it goes into.
-/

namespace AssetExchange

/-! ## Problems and places -/

/-- Why something cannot be done in a tree. -/
inductive FileProblem
  | notFound
  | alreadyExists
  | notDirectory
  | isDirectory
  | nameTooLong
  /-- A name has the character that ends texts. -/
  | nulInName
deriving DecidableEq

def FileProblem.message : FileProblem → String
  | notFound => "No such file or directory (os error 2)"
  | alreadyExists => "File exists (os error 17)"
  | notDirectory => "Not a directory (os error 20)"
  | isDirectory => "Is a directory (os error 21)"
  | nameTooLong => "File name too long (os error 36)"
  | nulInName => "file name contained an unexpected NUL byte"

inductive FileEntry
  | directory
  | file (content : String)
deriving DecidableEq

/-- Where a path leads. -/
inductive FilePlace
  /-- The names from the top of the tree on. -/
  | inside (names : List String)
  | outside
deriving DecidableEq

def FilePlace.parent : FilePlace → FilePlace
  | inside [] => outside
  | inside names => inside names.dropLast
  | outside => outside

/-- Directories and files below a top directory. -/
structure FileTree where
  /-- The absolute path of the top. -/
  top : String
  /-- What stands at the end of names from the top; the first entry for them counts. -/
  entries : List (List String × FileEntry)
deriving DecidableEq

namespace FileTree

def empty (top : String) : FileTree := ⟨top, []⟩

def entryAt? (tree : FileTree) : List String → Option FileEntry
  | [] => some .directory
  | names => tree.entries.lookup names

def entry? (tree : FileTree) : FilePlace → Option FileEntry
  | .inside names => tree.entryAt? names
  | .outside => some .directory

def insert (tree : FileTree) (names : List String) (entry : FileEntry) : FileTree :=
  { tree with entries := (names, entry) :: tree.entries }

@[simp] theorem entryAt?_insert_self (tree : FileTree) (names : List String)
    (entry : FileEntry) (below : names ≠ []) :
    (tree.insert names entry).entryAt? names = some entry := by
  cases names with
  | nil => exact absurd rfl below
  | cons first rest => simp [entryAt?, insert]

theorem entryAt?_insert_of_ne (tree : FileTree) {names others : List String}
    (entry : FileEntry) (different : others ≠ names) :
    (tree.insert names entry).entryAt? others = tree.entryAt? others := by
  cases others with
  | nil => rfl
  | cons first rest =>
      have unequal : (first :: rest == names) = false := beq_eq_false_iff_ne.2 different
      simp [entryAt?, insert, List.lookup_cons, unequal]

/-! ## Following paths -/

/-- The greatest number of bytes of a name. -/
def nameLimit : Nat := 255

/-- The number of bytes that a path must stay below. -/
def pathLimit : Nat := 4096

def pathText (names : List String) : String := String.intercalate "/" names

/-- Accepts the names of a path unless no path can be spelled like that. -/
def checkNames (names : List String) : Except FileProblem Unit :=
  if names.any fun name => name.toList.contains '\x00' then .error .nulInName
  else if pathLimit ≤ (pathText names).utf8ByteSize then .error .nameTooLong
  else .ok ()

def requireDirectory (tree : FileTree) (place : FilePlace) : Except FileProblem Unit :=
  match tree.entry? place with
  | some .directory => .ok ()
  | some (.file _) => .error .notDirectory
  | none => .error .notFound

/-- Where a name leads in a directory. -/
def enter (tree : FileTree) (place : FilePlace) (name : String) :
    Except FileProblem FilePlace :=
  if name = "" ∨ name = "." then .ok place
  else if name = ".." then .ok place.parent
  else if nameLimit < name.utf8ByteSize then .error .nameTooLong
  else
    match place with
    | .outside => .error .notFound
    | .inside above =>
        if (tree.entryAt? (above ++ [name])).isSome then .ok (.inside (above ++ [name]))
        else .error .notFound

def step (tree : FileTree) (place : FilePlace) (name : String) :
    Except FileProblem FilePlace := do
  tree.requireDirectory place
  tree.enter place name

def walk (tree : FileTree) (place : FilePlace) (names : List String) :
    Except FileProblem FilePlace :=
  names.foldlM tree.step place

/-- Where paths with a given start begin, in a working directory. -/
def startPlace (working : List String) : PathStart → FilePlace
  | .workingDirectory => .inside working
  | .top => .inside []
  | .outside => .outside

def locate (tree : FileTree) (working : List String) (path : TreePath) :
    Except FileProblem FilePlace := do
  checkNames path.names
  if path.isEmpty then .error .notFound
  else tree.walk (startPlace working path.start) path.names

def contentFrom? (tree : FileTree) (place : FilePlace) (names : List String) :
    Option String :=
  match tree.walk place names with
  | .ok found =>
      match tree.entry? found with
      | some (.file content) => some content
      | _ => none
  | .error _ => none

/-- The content of the file that a path leads to. A path from the working directory is
also tried from every directory above, the nearest first. -/
def findContent? (tree : FileTree) (working : List String) (path : TreePath) :
    Option String :=
  match path.start with
  | .workingDirectory =>
      (List.range (working.length + 1)).findSome? fun count =>
        tree.contentFrom? (.inside (working.take (working.length - count))) path.names
  | start => tree.contentFrom? (startPlace working start) path.names

/-- The absolute path of the directory that holds a place below the top. -/
def holderText? (tree : FileTree) : FilePlace → Option String
  | .inside [] => none
  | .inside names => some (pathText (tree.top :: names.dropLast))
  | .outside => none

/-! ## Making directories and files -/

def makeDirectory (tree : FileTree) (start : FilePlace) (names : List String) :
    Except FileProblem FileTree := do
  checkNames names
  let above ← tree.walk start names.dropLast
  match tree.step above (names.getLast?.getD ""), above with
  | .ok _, _ => .error .alreadyExists
  | .error .notFound, .inside holder =>
      .ok (tree.insert (holder ++ [names.getLast?.getD ""]) .directory)
  | .error problem, _ => .error problem

def ensureDirectory (tree : FileTree) (start : FilePlace) (names : List String) :
    Except FileProblem FileTree :=
  match tree.makeDirectory start names with
  | .ok made => .ok made
  | .error problem =>
      match (tree.walk start names).bind tree.requireDirectory with
      | .ok _ => .ok tree
      | .error _ => .error problem

/-- Makes the first of some directories; each lies in the one that follows it, which is
made first when it is missing. -/
def makeDirectories (tree : FileTree) (start : FilePlace) :
    List (List String) → Except FileProblem FileTree
  | [] => .ok tree
  | names :: holders =>
      match tree.makeDirectory start names with
      | .error .notFound => do
          let prepared ← tree.makeDirectories start holders
          prepared.ensureDirectory start names
      | _ => tree.ensureDirectory start names

/-- The names before the slashes at the end. -/
def beforeLastSlashes (names : List String) : List String :=
  (names.reverse.dropWhile String.isEmpty).reverse

/-- The names from the top to the place where a file is written in a directory. -/
def placeIn (tree : FileTree) (above : FilePlace) (name : String) :
    Except FileProblem (List String) :=
  match tree.step above name, above with
  | .ok found, .inside holder =>
      if tree.entry? found = some .directory then .error .isDirectory
      else .ok (holder ++ [name])
  | .error .notFound, .inside holder => .ok (holder ++ [name])
  | .error problem, _ => .error problem
  | .ok _, .outside => .error .notFound

/-- The names from the top to the place where a file is written. -/
def writePlace (tree : FileTree) (working : List String) (path : TreePath) :
    Except FileProblem (List String) := do
  checkNames path.names
  if path.isEmpty then .error .notFound
  else
    let names := beforeLastSlashes path.names
    match names.getLast? with
    | none => .error .isDirectory
    | some name =>
        let above ← tree.walk (startPlace working path.start) names.dropLast
        tree.requireDirectory above
        if name = "." ∨ name = ".." ∨ names.length < path.names.length then
          .error .isDirectory
        else tree.placeIn above name

/-- Writes a file into a directory that is there. -/
def writeFile (tree : FileTree) (working : List String) (path : TreePath)
    (content : String) : Except FileProblem FileTree :=
  (tree.writePlace working path).map fun names => tree.insert names (.file content)

/-- Writes a file after making the directories that it goes into. -/
def save (tree : FileTree) (working : List String) (path : TreePath)
    (content : String) : Except FileProblem FileTree := do
  let prepared ← tree.makeDirectories (startPlace working path.start) path.containing
  prepared.writeFile working path content

def ofContents (top : String) (directories : List String)
    (files : List (String × String)) : Except FileProblem FileTree := do
  let prepared ← directories.foldlM
    (fun tree directory =>
      let path := TreePath.ofText top directory
      tree.makeDirectories (startPlace [] path.start) path.stages.reverse)
    (empty top)
  files.foldlM (fun tree (path, content) => tree.save [] (.ofText top path) content)
    prepared

/-- The names from the top to the directory that a path from there leads to. -/
def directoryNames (tree : FileTree) (path : String) :
    Except FileProblem (List String) := do
  let place ← tree.locate [] (.ofText tree.top path)
  tree.requireDirectory place
  match place with
  | .inside names => return names
  | .outside => .error .notFound

end FileTree
end AssetExchange
