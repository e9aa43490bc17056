import CaptureQueue.Bytes
import CaptureQueue.IoError
import CaptureQueue.Text.Search

/-! Files as a program meets them: texts name them from a working directory, and reading or writing
one may fail. -/

set_option autoImplicit false
namespace CaptureQueue

/-- A place in the tree, by the names that lead there from the working directory. It may begin with
`/` or with steps up, which leave the part of the tree that is known. -/
abbrev Location : Type := List String

namespace Bytes

def ofText (s : String) : Bytes := s.toUTF8.toList

def text? (s : Bytes) : Option String := String.fromUTF8? ⟨s.toArray⟩

end Bytes

namespace Location

def ofText (path : String) : Location :=
  (Text.pieces '/' path).filter fun name => name != "" && name != "."

def text (l : Location) : String := "/".intercalate l

end Location

structure FileTree where
  files : List (Location × Bytes) := []
  directories : List Location := []
  -- Other names of directories, with what they stand for.
  links : List (Location × Location) := []
deriving DecidableEq, Repr

namespace FileTree

def root : Location := ["/"]

def up : String := ".."

def longestName : Nat := 255

def longestPath : Nat := 4095

/-- A file that is always there and never holds anything. -/
def sink : Location := ["/", "dev", "null"]

def standardNames : List String :=
  ["bin", "boot", "dev", "etc", "home", "lib", "media", "mnt", "opt", "proc", "root", "run", "sbin",
    "srv", "sys", "tmp", "usr", "var"]

def contents? (t : FileTree) (l : Location) : Option Bytes :=
  if l = sink then some [] else t.files.lookup l

-- The working directory and those above it, those of every host, and whatever holds a file or a
-- directory.
def isDirectory (t : FileTree) (l : Location) : Bool :=
  l.all (· == up) || l == root || standardNames.any (fun name => l == root ++ [name]) ||
    (t.files.map (·.1) ++ t.directories).any fun other => l.isPrefixOf other && l != other ||
    t.directories.contains l

def parent (l : Location) : Location :=
  if l = root then root
  else if l.all (· == up) then l ++ [up]
  else l.dropLast

-- One step from a directory. Only a place that exists can be gone through.
def enter (t : FileTree) (l : Location) (name : String) : Except IoError Location :=
  if name = "" ∨ name = "." then .ok l
  else if name = up then .ok (parent l)
  else if longestName < name.utf8ByteSize then .error (.ofErrno Errno.nameTooLong)
  else if let some target := t.links.lookup (l ++ [name]) then .ok target
  else if t.isDirectory (l ++ [name]) then .ok (l ++ [name])
  else if (t.contents? (l ++ [name])).isSome then .error (.ofErrno Errno.notADirectory)
  else .error (.ofErrno Errno.noSuchFile)

/-- Where a text leads: a directory to start from and the names on the way. -/
def names (path : String) : Location × List String :=
  (if path.toList.head? = some '/' then root else [], Text.pieces '/' path)

def refuse (path : String) : Except IoError Unit :=
  if path.isEmpty then .error (.ofErrno Errno.noSuchFile)
  else if path.toList.contains '\x00' then
    .error ⟨.invalidInput, "file name contained an unexpected NUL byte"⟩
  else if longestPath < path.utf8ByteSize then .error (.ofErrno Errno.nameTooLong)
  else .ok ()

/-- The place that a text names, whose last name may be that of a file or of nothing. -/
def locate (t : FileTree) (path : String) : Except IoError Location := do
  refuse path
  let (start, steps) := names path
  let last := steps.getLastD ""
  let directory ← steps.dropLast.foldlM t.enter start
  if last = "" ∨ last = "." ∨ last = up then t.enter directory last
  else if longestName < last.utf8ByteSize then .error (.ofErrno Errno.nameTooLong)
  else return directory ++ [last]

def present (t : FileTree) (path : String) : Bool :=
  match t.locate path with
  | .ok l => t.isDirectory l || (t.contents? l).isSome
  | .error _ => false

def read (t : FileTree) (path : String) : Except IoError Bytes := do
  let l ← t.locate path
  if t.isDirectory l then .error (.ofErrno Errno.isADirectory)
  else
    match t.contents? l with
    | some data => .ok data
    | none => .error (.ofErrno Errno.noSuchFile)

-- Makes a file or replaces what it held. A name with a slash after it would be a directory.
def write (t : FileTree) (path : String) (data : Bytes) : Except IoError FileTree := do
  refuse path
  let named := String.ofList (path.toList.reverse.dropWhile (· == '/')).reverse
  if named.isEmpty then .error (.ofErrno Errno.isADirectory)
  let l ← t.locate named
  if t.isDirectory l || named != path then .error (.ofErrno Errno.isADirectory)
  else if l = sink then return t
  else return { t with files := t.files.filter (·.1 != l) ++ [(l, data)] }

/-- The files whose bytes are a text. -/
def texts (t : FileTree) : List (Location × String) :=
  t.files.filterMap fun (l, data) => (Bytes.text? data).map (l, ·)

end FileTree
end CaptureQueue
