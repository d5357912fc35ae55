/-
**Trees of files.**

A tree holds files and directories under paths, and answers as a file system does.

* `Path.ofName`: the names on a path, and what is refused before any of them is looked up;
* `FileTree.follow`: the place that names lead to;
* `FileTree.read`, `FileTree.listing`: what is there;
* `FileTree.write`: the tree after a file was written.
-/

import IncompleteBeta.Files.Fault

namespace IncompleteBeta.Files

/-- What stands at a path. -/
inductive Node where
  | file (bytes : List UInt8)
  | directory
deriving DecidableEq, Repr

/-- Files and directories under the names that lead to them from the root. -/
structure FileTree where
  nodes : List (List FileName × Node)
deriving Repr

/-- A path taken apart: the names on it, and whether a slash follows the last. -/
structure Path where
  names : List FileName
  trailingSlash : Bool
deriving DecidableEq, Repr

def maxPathBytes : Nat := 4095

def maxNameBytes : Nat := 255

def slash : UInt8 := 0x2f

/-- The directory itself, as a name in it. -/
def here : FileName := [0x2e]

/-- The directory above, as a name in the one below. -/
def above : FileName := [0x2e, 0x2e]

/-- The names between the slashes of a path, empty ones included. -/
def splitSlashes (path : PathName) : List FileName :=
  path.foldr (fun byte parts =>
    if byte = slash then [] :: parts
    else
      match parts with
      | part :: parts => (byte :: part) :: parts
      | [] => [[byte]]) [[]]

/-- A path taken apart: empty names lead nowhere. An empty path leads nowhere at all, and one that
no call to the system can carry is refused. -/
def Path.ofName (path : PathName) : Except SystemFault Path :=
  if path.contains 0 then .error .nulInPath
  else if path.isEmpty then .error .notFound
  else if maxPathBytes < path.length then .error .nameTooLong
  else
    let parts := splitSlashes path
    .ok { names := parts.filter fun part => !part.isEmpty
          trailingSlash := (parts.getLast?.getD []).isEmpty }

def entryPath (directory : PathName) (name : FileName) : PathName :=
  if directory.getLast? = some slash then directory ++ name else directory ++ slash :: name

namespace FileTree

def node? (tree : FileTree) (names : List FileName) : Option Node :=
  if names.isEmpty then some .directory else tree.nodes.lookup names

/-- Follow names from a place that is reached; every name has to be looked up in a directory. -/
def follow (tree : FileTree) : (reached : List FileName) → List FileName →
    Except SystemFault (List FileName)
  | reached, [] => .ok reached
  | reached, name :: rest =>
    match tree.node? reached with
    | some .directory =>
      if name = here then tree.follow reached rest
      else if name = above then tree.follow reached.dropLast rest
      else if maxNameBytes < name.length then .error .nameTooLong
      else tree.follow (reached ++ [name]) rest
    | some (.file _) => .error .notDirectory
    | none => .error .notFound

def locate (tree : FileTree) (path : PathName) : Except SystemFault (List FileName) := do
  tree.follow [] (← Path.ofName path).names

def isDirectory (tree : FileTree) (path : PathName) : Bool :=
  match tree.locate path with
  | .ok names => tree.node? names == some .directory
  | .error _ => false

/-- The bytes of the file at a path. Only a directory can stand before a slash. -/
def read (tree : FileTree) (path : PathName) : Content := do
  let parted ← Path.ofName path
  match tree.node? (← tree.follow [] parted.names) with
  | some (.file bytes) => if parted.trailingSlash then .error .notDirectory else return bytes
  | some .directory => .error .isDirectory
  | none => .error .notFound

def entries (tree : FileTree) (path : PathName) : List FileName :=
  match tree.locate path with
  | .ok place =>
    tree.nodes.filterMap fun (names, _) =>
      match names.getLast? with
      | some name => if names.dropLast == place then some name else none
      | none => none
  | .error _ => []

/-- The names in the directory at a path, if a directory stands there. -/
def listing (tree : FileTree) (path : PathName) : Option (List FileName) :=
  if tree.isDirectory path then some (tree.entries path) else none

def put (tree : FileTree) (names : List FileName) (node : Node) : FileTree :=
  { nodes := tree.nodes.filter (fun entry => entry.1 != names) ++ [(names, node)] }

/-- The tree after the file at a path was written from its start. A path with a slash at its end
asks for a directory, whatever stands there, once all before its last name is a directory. -/
def write (tree : FileTree) (path : PathName) (bytes : List UInt8) :
    Except SystemFault FileTree := do
  let parted ← Path.ofName path
  if parted.trailingSlash then
    let _ ← tree.follow [] (parted.names.dropLast ++ [here])
    .error .isDirectory
  else
    let place ← tree.follow [] parted.names
    if tree.node? place = some .directory then .error .isDirectory
    else return tree.put place (.file bytes)

end FileTree

end IncompleteBeta.Files
