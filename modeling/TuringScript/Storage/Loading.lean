import TuringScript.Journal
import TuringScript.Source.Stream
import TuringScript.Storage.Basic

/-!
# Loading programs

Rule text is loaded from a file, from all program files of a directory, or from a text at hand. It
must not exceed the size limit, and it is read in the standard dialect. A directory can be opened
like a file, but reading it fails at once.
-/
namespace TuringScript

/-! ### Texts -/

def readText (text : String) : Except LoadError Reading :=
  if maxProgramSize < text.utf8ByteSize then .error (.oversized text.utf8ByteSize)
  else .ok (Dialect.standard.read text)

def loadText (text : String) : Except LoadError Table := do
  let reading ← readText text
  reading.table.mapError .parse

def textEvents (text : String) : List Event :=
  match readText text with
  | .ok reading => reading.events
  | .error _ => []

namespace Storage

/-! ### Files -/

def read (storage : Storage) (path : String) : Except LoadError Reading :=
  match storage.find path with
  | .absent reason => .error (.unreadableFile path reason)
  | .directory _ => .ok (Dialect.standard.readStream ⟨[], some FileError.isDirectory⟩)
  | .file content =>
    if maxProgramSize < content.size then .error (.oversized content.size)
    else .ok (Dialect.standard.readStream ⟨[content.toList], none⟩)

def loadRules (storage : Storage) (path : String) : Except LoadError (List Rule) := do
  let reading ← storage.read path
  reading.accepted.mapError .parse

def loadTable (storage : Storage) (path : String) : Except LoadError Table := do
  let rules ← storage.loadRules path
  return .ofRules rules

def loadMachine (storage : Storage) (path : String) : Except LoadError Machine := do
  let rules ← storage.loadRules path
  return Machine.empty.addRules rules

def fileEvents (storage : Storage) (path : String) : List Event :=
  match storage.read path with
  | .error _ => []
  | .ok reading =>
    reading.events ++ match reading.result with
      | .ok rules => [.loaded path rules]
      | .error _ => []

/-! ### Directories -/

/-- The programs of a directory in the order of their paths, and the errors of the files that could
not be loaded in the order of their messages. -/
structure Folder where
  programs : List (String × Table)
  errors : List LoadError

/-- A name ends in the extension of programs, and does not consist of it. -/
def isProgramName (name : String) : Bool :=
  name.endsWith ".tm" && 3 < name.length

def joinPath (directory name : String) : String :=
  if directory.endsWith "/" then directory ++ name else directory ++ "/" ++ name

/-- The paths of the program files among the names in a directory, in order. -/
def programPaths (storage : Storage) (directory : String) (names : List String) : List String :=
  ((names.filter isProgramName).map (joinPath directory)).filter (fun path =>
    match storage.find path with
    | .directory _ => false
    | _ => true) |>.mergeSort (fun left right => left ≤ right)

def loadFolder (storage : Storage) (directory : String) : Folder :=
  match storage.find directory with
  | .absent reason => ⟨[], [.unreadableDirectory directory reason]⟩
  | .file _ => ⟨[], [.unreadableDirectory directory FileError.notDirectory]⟩
  | .directory names =>
    let loads := (storage.programPaths directory names).map fun path =>
      (path, storage.loadTable path)
    { programs := loads.filterMap fun (path, load) => load.toOption.map (path, ·)
      errors := (loads.filterMap fun (_, load) =>
        match load with
        | .error error => some error
        | .ok _ => none).mergeSort fun left right => left.message ≤ right.message }

def folderEvents (storage : Storage) (directory : String) : List Event :=
  match storage.find directory with
  | .directory names => (storage.programPaths directory names).flatMap storage.fileEvents
  | _ => []

end Storage
end TuringScript
