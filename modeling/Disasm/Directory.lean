import Std.Data.TreeMap
import Disasm.Fault
import Disasm.Text.Split

/-!
# Directories

The files that work may read and write, by their paths inside the directory.  A path may lead through
directories, which exist as soon as a file in them does.  Steps to the same place (`.`, empty parts) and
back (`..`) are resolved before a file is looked up.  A path that leaves the directory keeps its steps
back, and one from the root its first slash; both lead to directories of which no file is known.
-/

namespace Disasm

structure Directory where
  files : Std.TreeMap String ByteArray := {}

namespace Directory

/-- the parts of a path, last one first, with `.` and `..` resolved -/
def resolve : List String → List String → List String
  | done, [] => done
  | done, part :: rest =>
    if part == "" || part == "." then resolve done rest
    else if part == ".." then
      match done with
      | last :: before => if last == ".." then resolve (part :: done) rest else resolve before rest
      | [] => resolve [part] rest
    else resolve (part :: done) rest

def isAbsolute (name : String) : Bool := name.toList.head? == some '/'

def path (name : String) : String :=
  (if isAbsolute name then "/" else "") ++
    "/".intercalate (resolve [] (Text.splitOn '/' name)).reverse

/-- the last part of a path, empty behind a closing slash -/
def lastPart (name : String) : String := (Text.splitOn '/' name).getLastD ""

/-- the directory that a path leads to, without its last part -/
def parent (name : String) : String := "/".intercalate (Text.splitOn '/' name).dropLast

/-- a path below another; a slash stands between them, unless the first ends in one -/
def join (base name : String) : String :=
  if isAbsolute name then name
  else if base == "" || base.toList.getLast? == some '/' then base ++ name
  else base ++ "/" ++ name

def write (d : Directory) (name : String) (data : ByteArray) : Directory :=
  { d with files := d.files.insert (path name) data }

def bytes? (d : Directory) (name : String) : Option ByteArray := d.files[path name]?

def isDirectory (d : Directory) (name : String) : Bool :=
  name != "" &&
    (path name == "" || path name == "/" || lastPart (path name) == ".." ||
      d.files.any fun file _ => (path name ++ "/").isPrefixOf file)

def holds (d : Directory) (name : String) : Bool :=
  d.files.contains (path name) || d.isDirectory name

/-- the bytes of a file that has to be there -/
def bytes (d : Directory) (name : String) : Except Fault ByteArray :=
  match d.bytes? name with
  | some data => .ok data
  | none => .error .noSuchFile

/-- makes a file or empties it; only a directory that is there can hold it -/
def create (d : Directory) (name : String) : Except Fault Directory :=
  if lastPart name == "" then .error .noSuchFile
  else if (Text.splitOn '/' name).length == 1 || isAbsolute name || d.isDirectory (parent name) then
    .ok (d.write name ByteArray.empty)
  else .error .noSuchFile

/-- puts bytes behind those of a file -/
def append (d : Directory) (name : String) (data : List UInt8) : Directory :=
  d.write name (data.foldl ByteArray.push ((d.bytes? name).getD ByteArray.empty))

/-- the text of a file that has to be there -/
def text (d : Directory) (name : String) : Except Fault String :=
  match d.bytes? name with
  | none => .error .noSuchFile
  | some data =>
    match Text.ofBytes? data with
    | some t => .ok t
    | none => .error .badEncoding

end Directory
end Disasm
