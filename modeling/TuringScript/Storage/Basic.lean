/-!
# Storages

A storage tells what a path leads to: a file with its content, a directory with the names in it, or
nothing, for a reason.
-/
namespace TuringScript

inductive Found where
  | file (content : ByteArray)
  | directory (names : List String)
  | absent (reason : String)

structure Storage where
  find : String → Found

/-! ### Reasons -/

namespace FileError

def notFound : String := "No such file or directory (os error 2)"

def notDirectory : String := "Not a directory (os error 20)"

def isDirectory : String := "Is a directory (os error 21)"

def permissionDenied : String := "Permission denied (os error 13)"

def nameTooLong : String := "File name too long (os error 36)"

def zeroByte : String := "file name contained an unexpected NUL byte"

end FileError
end TuringScript
