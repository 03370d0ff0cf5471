import ControlPlane.Program

/-!
# Files in memory

A tree of files below a working directory, read by paths as an operating system reads them: empty
names and `.` stay where they are, `..` goes up, and a file has nothing below it. Outside the
working directory there are no files.
-/

namespace ControlPlane.Surroundings

inductive Node where
  | file (content : Bytes)
  | directory
  deriving DecidableEq, Repr

/-- Files and directories by their names from the working directory on. The directories on the way
to an entry are there as well. -/
structure Files where
  entries : List (List String × Node) := []
  deriving DecidableEq, Repr

def isDirectory : FileFault := .other "Is a directory (os error 21)"

def notDirectory : FileFault := .other "Not a directory (os error 20)"

def nameTooLong : FileFault := .other "File name too long (os error 36)"

def nulInPath : FileFault := .other "file name contained an unexpected NUL byte"

/-- The longest name, in octets. -/
def maxName : Nat := 255

/-- The longest path, in octets. -/
def maxPath : Nat := 4095

/-- Cuts a path at its slashes. -/
def splitPath (path : String) : List String :=
  let parts := path.toList.foldr
    (fun c parts =>
      if c = '/' then [] :: parts
      else match parts with
        | [] => [[c]]
        | part :: rest => (c :: part) :: rest)
    [[]]
  parts.map String.ofList

/-- Whether a part of a path stays where it is. -/
def staysThere (part : String) : Bool :=
  part.isEmpty || part = "."

namespace Files

def node? (files : Files) (place : List String) : Option Node :=
  if place.isEmpty then some .directory
  else match files.entries.find? fun entry => entry.1 = place with
    | some entry => some entry.2
    | none =>
      if files.entries.any fun entry => place.isPrefixOf entry.1 then some .directory else none

/-- Puts a node at a place, in place of what stood there. -/
def insert (files : Files) (path : String) (node : Node) : Files :=
  let place := (splitPath path).filter fun part => !staysThere part
  ⟨files.entries.filter (fun entry => entry.1 ≠ place) ++ [(place, node)]⟩

/-- Removes what stands at a place, but keeps the directory it stood in. -/
def erase (files : Files) (path : String) : Files :=
  let place := (splitPath path).filter fun part => !staysThere part
  let others := files.entries.filter fun entry => entry.1 ≠ place
  ⟨if place.length ≤ 1 then others else others ++ [(place.dropLast, .directory)]⟩

/-- What a path outside the working directory leads to: nothing, or a directory further up. -/
def lookOutside (parts : List String) : Except FileFault Node :=
  if parts.all fun part => staysThere part || part = ".." then .ok .directory else .error .notFound

/-- Follows the parts of a path from a directory. -/
def follow (files : Files) (place : List String) : List String → Except FileFault Node
  | [] => .ok .directory
  | part :: rest =>
    if staysThere part then follow files place rest
    else if part = ".." then
      if place.isEmpty then lookOutside rest else follow files place.dropLast rest
    else if maxName < part.utf8ByteSize then .error nameTooLong
    else match files.node? (place ++ [part]) with
      | none => .error .notFound
      | some .directory => follow files (place ++ [part]) rest
      | some (.file content) => if rest.isEmpty then .ok (.file content) else .error notDirectory

def look (files : Files) (path : String) : Except FileFault Node :=
  if path.isEmpty then .error .notFound
  else if path.toList.contains '\u0000' then .error nulInPath
  else if maxPath < path.utf8ByteSize then .error nameTooLong
  else if path.toList.head? = some '/' then lookOutside (splitPath path)
  else files.follow [] (splitPath path)

/-- The content of the file that a path leads to. -/
def read (files : Files) (path : String) : Except FileFault Bytes :=
  match files.look path with
  | .error fault => .error fault
  | .ok .directory => .error isDirectory
  | .ok (.file content) => .ok content

end Files

end ControlPlane.Surroundings
