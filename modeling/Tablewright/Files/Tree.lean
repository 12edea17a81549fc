import Tablewright.Files.Path
import Tablewright.Text.Quoted

/-!
# Trees of files

A tree holds files and directories at places below a root. A path leads to a place name by name,
and everything on the way has to be a directory. What cannot be done is told with the path as it was
given.
-/

namespace Tablewright.Files

/-- The names that lead from the root to a place. -/
abbrev Place := List String

/-- What is at a place. -/
inductive Entry where
  | file (content : List UInt8)
  | directory
  deriving Repr, DecidableEq

/-- Why something cannot be done with a path. -/
inductive Fault where
  | missing
  | present
  | notDirectory
  | isDirectory
  | nameTooLong
  /-- A file that is held by somebody else. -/
  | locked
  /-- A path that no system can be asked about. -/
  | nullCharacter
  deriving Repr, DecidableEq

/-- What cannot be done, and with which path. -/
structure Failure where
  fault : Fault
  path : Path
  deriving Repr, DecidableEq

namespace Failure

/-- A report of the system with its number. -/
def systemMessage
    (failure : Failure)
    (number : Nat)
    (reason : String) : String :=
  "[Errno " ++ toString number ++ "] " ++ reason ++ ": " ++ Text.quoted failure.path.text

/-- The wording of a failure. -/
def message
    (failure : Failure) : String :=
  match failure.fault with
  | .missing => failure.systemMessage 2 "No such file or directory"
  | .present => failure.systemMessage 17 "File exists"
  | .notDirectory => failure.systemMessage 20 "Not a directory"
  | .isDirectory => failure.systemMessage 21 "Is a directory"
  | .nameTooLong => failure.systemMessage 36 "File name too long"
  | .locked => "locked"
  | .nullCharacter => "embedded null byte"

/-- Whether the failure is one that the system reports. -/
def isOfSystem
    (failure : Failure) : Bool :=
  failure.fault ≠ .nullCharacter

end Failure

/-- Files and directories at their places. The root is always there. -/
structure Tree where
  entries : List (Place × Entry)
  deriving Repr, Inhabited

namespace Tree

def get?
    (tree : Tree)
    (place : Place) : Option Entry :=
  if place = [] then some .directory else tree.entries.lookup place

/-- Puts an entry at a place. -/
def set
    (tree : Tree)
    (place : Place)
    (entry : Entry) : Tree :=
  ⟨tree.entries.filter (fun (other, _) => other ≠ place) ++ [(place, entry)]⟩

/-- Takes away what is at a place. -/
def erase
    (tree : Tree)
    (place : Place) : Tree :=
  ⟨tree.entries.filter fun (other, _) => other ≠ place⟩

/-- Whether a name has more bytes than a directory can hold. -/
def isTooLong
    (name : String) : Bool :=
  255 < name.utf8ByteSize

/-- The place that names lead to from another one. Only the last name may lead to nothing. -/
def reachFrom
    (tree : Tree)
    (place : Place) : List String → Except Fault Place
  | [] => .ok place
  | name :: rest =>
      match tree.get? place with
      | none => .error .missing
      | some (.file _) => .error .notDirectory
      | some .directory =>
          if name = ".." then reachFrom tree place.dropLast rest
          else if isTooLong name then .error .nameTooLong
          else reachFrom tree (place ++ [name]) rest

/-- The place that a path leads to. -/
def reach
    (tree : Tree)
    (workingDirectory : Place)
    (path : Path) : Except Failure Place :=
  if path.names.any fun name => name.toList.contains '\x00' then .error ⟨.nullCharacter, path⟩
  else
    let start :=
      match path.anchor with
      | .workingDirectory => workingDirectory
      | _ => []
    (tree.reachFrom start path.names).mapError fun fault => ⟨fault, path⟩

/-- What a path leads to, if there is something. -/
def status?
    (tree : Tree)
    (workingDirectory : Place)
    (path : Path) : Except Failure (Option Entry) :=
  match tree.reach workingDirectory path with
  | .ok place => .ok (tree.get? place)
  | .error ⟨.nameTooLong, path⟩ => .error ⟨.nameTooLong, path⟩
  | .error _ => .ok none

/-- The content of a file. -/
def readFile
    (tree : Tree)
    (workingDirectory : Place)
    (path : Path) : Except Failure (List UInt8) :=
  match tree.reach workingDirectory path with
  | .error failure => .error failure
  | .ok place =>
      match tree.get? place with
      | none => .error ⟨.missing, path⟩
      | some .directory => .error ⟨.isDirectory, path⟩
      | some (.file content) => .ok content

/-- Gives a file its content; the file need not be there before. -/
def writeFile
    (tree : Tree)
    (workingDirectory : Place)
    (path : Path)
    (content : List UInt8) : Except Failure Tree :=
  match tree.reach workingDirectory path with
  | .error failure => .error failure
  | .ok place =>
      match tree.get? place with
      | some .directory => .error ⟨.isDirectory, path⟩
      | _ => .ok (tree.set place (.file content))

/-- Takes away a file. -/
def removeFile
    (tree : Tree)
    (workingDirectory : Place)
    (path : Path) : Except Failure Tree :=
  match tree.reach workingDirectory path with
  | .error failure => .error failure
  | .ok place =>
      match tree.get? place with
      | none => .error ⟨.missing, path⟩
      | some .directory => .error ⟨.isDirectory, path⟩
      | some (.file _) => .ok (tree.erase place)

/-- Makes a directory where nothing is. -/
def makeDirectory
    (tree : Tree)
    (workingDirectory : Place)
    (path : Path) : Except Failure Tree :=
  match tree.reach workingDirectory path with
  | .error failure => .error failure
  | .ok place =>
      match tree.get? place with
      | some _ => .error ⟨.present, path⟩
      | none => .ok (tree.set place .directory)

/-- Whether a path leads to a directory. -/
def isDirectory
    (tree : Tree)
    (workingDirectory : Place)
    (path : Path) : Bool :=
  match tree.status? workingDirectory path with
  | .ok (some .directory) => true
  | _ => false

/-- What came of making a directory: the tree, and a failure unless the directory is there. -/
abbrev Making := Tree × Option Failure

/-- Makes a directory, which may be there before. -/
def ensureDirectory
    (tree : Tree)
    (workingDirectory : Place)
    (path : Path) : Making :=
  match tree.makeDirectory workingDirectory path with
  | .ok tree => (tree, none)
  | .error failure =>
      if failure.fault ≠ .missing && failure.isOfSystem && tree.isDirectory workingDirectory path then
        (tree, none)
      else (tree, some failure)

/-- Makes a directory with all that are missing on the way to it, as far as `depth` directories
above it. -/
def ensureDirectoriesUpTo
    (tree : Tree)
    (workingDirectory : Place)
    (path : Path) : Nat → Making
  | 0 => tree.ensureDirectory workingDirectory path
  | depth + 1 =>
      match tree.ensureDirectory workingDirectory path with
      | (tree, none) => (tree, none)
      | (tree, some failure) =>
          if failure.fault = .missing && path.parent ≠ path then
            match ensureDirectoriesUpTo tree workingDirectory path.parent depth with
            | (tree, none) => tree.ensureDirectory workingDirectory path
            | (tree, some failure) => (tree, some failure)
          else (tree, some failure)

/-- Makes a directory with all that are missing on the way to it. -/
def ensureDirectories
    (tree : Tree)
    (workingDirectory : Place)
    (path : Path) : Making :=
  tree.ensureDirectoriesUpTo workingDirectory path path.names.length

end Tree

end Tablewright.Files
