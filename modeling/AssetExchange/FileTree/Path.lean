import AssetExchange.Text.Piece

/-!
# Paths

A path leads to a directory or a file by the names between its slashes. It starts at
the working directory, at the top of a tree of files, or outside the tree. `containing`
lists the paths of the directories that have to exist before the last name can.
-/

namespace AssetExchange

inductive PathStart
  | workingDirectory
  | top
  | outside
deriving DecidableEq

structure TreePath where
  start : PathStart
  /-- The names between slashes; an empty one where slashes meet and after a last
  slash. -/
  names : List String
deriving DecidableEq

namespace TreePath

def namesOf (characters : List Char) : List String :=
  (Text.pieces ['/'] characters).map String.ofList

/-- The path with a given text, in a tree whose top has the given absolute path. -/
def ofText (top text : String) : TreePath :=
  match Text.afterPrefix? top.toList text.toList, text.toList with
  | some [], _ => ⟨.top, []⟩
  | some ('/' :: rest), _ => ⟨.top, namesOf rest⟩
  | _, [] => ⟨.workingDirectory, []⟩
  | _, '/' :: rest => ⟨.outside, namesOf rest⟩
  | _, characters => ⟨.workingDirectory, namesOf characters⟩

def isEmpty (path : TreePath) : Bool :=
  path.start = .workingDirectory && path.names = []

/-- Whether the name at an index takes a step of its own: empty names do not, and a
single point does only where a path from the working directory begins. -/
def isStep (path : TreePath) (index : Nat) (name : String) : Bool :=
  name ≠ "" && (name ≠ "." || (index = 0 && path.start = .workingDirectory))

/-- The names of the path up to every step, the shortest first. -/
def stages (path : TreePath) : List (List String) :=
  (path.names.zipIdx.filter fun (name, index) => path.isStep index name).map
    fun (_, index) => path.names.take (index + 1)

/-- The names of the directories that hold what a path leads to, the innermost first. -/
def containing (path : TreePath) : List (List String) :=
  path.stages.reverse.tail

end TreePath
end AssetExchange
