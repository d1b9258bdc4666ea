import CacheCluster.Error

/-!
# Files

A tree of directories and files, and the file that a path leads to.  Paths are walked name by
name, so that a path out of a directory that is not there leads nowhere.

## Main definitions

* `FileTree` : a file, or a directory with its entries.
* `FileTree.walk` : the file at the end of a walk.
* `FileTree.read` : the file that a path names.
-/

namespace CacheCluster

/-- A file, or a directory with its entries. -/
inductive FileTree
  | file (bytes : List UInt8)
  | directory (entries : List (String × FileTree))

namespace FileTree

/-- The number of bytes that a name may have. -/
def nameLimit : Nat := 255

/-- The number of bytes that a path has to stay below. -/
def pathLimit : Nat := 4096

/-- The file at the end of a walk from a place, given the directories above it, the nearest one
first. -/
def walk : List String → List FileTree → FileTree → Except IoError (List UInt8)
  | [], _, .file bytes => .ok bytes
  | [], _, .directory _ => .error .isDirectory
  | _ :: _, _, .file _ => .error .notDirectory
  | name :: rest, above, .directory entries =>
    if name = "." then walk rest above (.directory entries)
    else if name = ".." then
      match above with
      | [] => walk rest [] (.directory entries)
      | up :: above => walk rest above up
    else if nameLimit < name.utf8ByteSize then .error .nameTooLong
    else
      match entries.lookup name with
      | some next => walk rest (.directory entries :: above) next
      | none => .error .notFound

/-- The names of a path.  A slash at its end asks for a directory. -/
def pathNames (path : String) : List String :=
  (path.splitOn "/").filter (· ≠ "") ++ if path.endsWith "/" then ["."] else []

/-- The file that a path names in a tree; a path that does not begin with a slash goes on from the
directory of some names. -/
def read (root : FileTree) (here : List String) (path : String) : Except IoError (List UInt8) :=
  if path.isEmpty then .error .notFound
  else if pathLimit ≤ path.utf8ByteSize then .error .nameTooLong
  else walk ((if path.startsWith "/" then [] else here) ++ pathNames path) [] root

end FileTree

end CacheCluster
