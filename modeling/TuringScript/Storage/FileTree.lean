import TuringScript.Storage.Basic

/-!
# File trees

A tree of files and directories, as a storage. A path is followed from the root of the tree one
component at a time; every component but the last has to be a directory, and so has the last if a
slash or a dot comes after it. What lies around the tree is an empty directory. A path that is too
long leads nowhere, whatever it says.
-/
namespace TuringScript

inductive FileNode where
  | file (content : ByteArray)
  | directory

/-- Nodes by the components of their paths from the root; the first node of a path counts. -/
structure FileTree where
  nodes : List (List String × FileNode)

namespace FileTree

def empty : FileTree := ⟨[]⟩

/-- The components of a path that name something. -/
def components (path : String) : List String :=
  (path.splitOn "/").filter fun component => component ≠ "" && component ≠ "."

def addFile (tree : FileTree) (path : String) (content : ByteArray) : FileTree :=
  ⟨(components path, .file content) :: tree.nodes⟩

/-- Adds a directory and the directories on the way to it. -/
def addDirectory (tree : FileTree) (path : String) : FileTree :=
  let names := components path
  let ways := (List.range names.length).map fun index => (names.take (index + 1), .directory)
  ⟨ways ++ tree.nodes⟩

/-! ### Following a path -/

/-- A place in the tree, by its components; `none` lies outside of the tree. -/
abbrev Place := Option (List String)

def node? (tree : FileTree) : Place → Option FileNode
  | none | some [] => some .directory
  | some names => tree.nodes.lookup names

/-- The greatest length of a name in bytes. -/
def maxNameBytes : Nat := 255

/-- The greatest length of a whole path in bytes, however short the way it describes. -/
def maxPathBytes : Nat := 4095

/-- The place that one more component leads to from a directory. -/
def enter (tree : FileTree) (place : Place) (component : String) : Except String Place :=
  if component = "" || component = "." then .ok place
  else if component = ".." then
    .ok (place.bind fun names => if names.isEmpty then none else some names.dropLast)
  else if maxNameBytes < component.utf8ByteSize then .error FileError.nameTooLong
  else
    match place with
    | none => .error FileError.notFound
    | some names =>
      let next := some (names ++ [component])
      if (tree.node? next).isSome then .ok next else .error FileError.notFound

def follow (tree : FileTree) (place : Place) : List String → Except String Place
  | [] => .ok place
  | component :: rest =>
    match tree.node? place with
    | some .directory => do
      let place ← tree.enter place component
      tree.follow place rest
    | _ => .error FileError.notDirectory

def resolve (tree : FileTree) (path : String) : Except String Place :=
  if path.contains '\x00' then .error FileError.zeroByte
  else if path = "" then .error FileError.notFound
  else if maxPathBytes < path.utf8ByteSize then .error FileError.nameTooLong
  else tree.follow (if path.startsWith "/" then none else some []) (path.splitOn "/")

/-- The names of the nodes right below a place. -/
def names (tree : FileTree) (place : List String) : List String :=
  (tree.nodes.filterMap fun (names, _) =>
    if names.dropLast = place then names.getLast? else none).eraseDups

def find (tree : FileTree) (path : String) : Found :=
  match tree.resolve path with
  | .error reason => .absent reason
  | .ok place =>
    match tree.node? place with
    | some (.file content) => .file content
    | some .directory => .directory ((place.map tree.names).getD [])
    | none => .absent FileError.notFound

def storage (tree : FileTree) : Storage := ⟨tree.find⟩

end FileTree
end TuringScript
