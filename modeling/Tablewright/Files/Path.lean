/-!
# Paths

A path is a list of names that starts at a root or at the working directory. Repeated slashes and
single dots in its text do not count; double dots are kept until the path is resolved.
-/

namespace Tablewright.Files

/-- Where a path starts. -/
inductive Anchor where
  | workingDirectory
  | root
  /-- A root that is written with exactly two slashes. -/
  | doubleRoot
  deriving Repr, DecidableEq, Inhabited

def Anchor.text : Anchor → String
  | .workingDirectory => ""
  | .root => "/"
  | .doubleRoot => "//"

/-- A path. -/
structure Path where
  anchor : Anchor
  names : List String
  deriving Repr, DecidableEq, Inhabited

namespace Path

/-- The parts of a text between slashes. -/
def splitAtSlashes : List Char → List Char × List (List Char)
  | [] => ([], [])
  | c :: rest =>
      let (first, others) := splitAtSlashes rest
      if c = '/' then ([], first :: others) else (c :: first, others)

/-- Whether a part of a text is a name. -/
def isName
    (part : List Char) : Bool :=
  part ≠ [] && part ≠ ['.']

/-- The anchor of a text, by the slashes at its beginning. -/
def anchorOf
    (text : List Char) : Anchor :=
  match (text.takeWhile fun c => c = '/').length with
  | 0 => .workingDirectory
  | 2 => .doubleRoot
  | _ => .root

def ofText
    (text : String) : Path :=
  let chars := text.toList
  let (first, others) := splitAtSlashes chars
  ⟨anchorOf chars, ((first :: others).filter isName).map String.ofList⟩

def text
    (path : Path) : String :=
  match path.anchor, path.names with
  | .workingDirectory, [] => "."
  | anchor, names => anchor.text ++ String.intercalate "/" names

/-- The last name, or the empty text if there is none. -/
def name
    (path : Path) : String :=
  path.names.getLast?.getD ""

/-- The path without its last name. -/
def parent
    (path : Path) : Path :=
  { path with names := path.names.dropLast }

/-- A path that is read from another one. -/
def join
    (path other : Path) : Path :=
  match other.anchor with
  | .workingDirectory => ⟨path.anchor, path.names ++ other.names⟩
  | _ => other

/-- The path beside another one that has a given name, which may itself be a path. -/
def sibling
    (path : Path)
    (name : String) : Path :=
  path.parent.join (ofText name)

/-- Goes along names from a place below the root. Double dots go up, as long as that is
possible. -/
def walk
    (place : List String) : List String → List String
  | [] => place
  | ".." :: rest => walk place.dropLast rest
  | name :: rest => walk (place ++ [name]) rest

/-- The place below the root that a path leads to from the working directory. -/
def placeFrom
    (workingDirectory : List String)
    (path : Path) : List String :=
  match path.anchor with
  | .workingDirectory => walk workingDirectory path.names
  | _ => walk [] path.names

/-- The path from the root to a place. -/
def ofPlace
    (place : List String) : Path :=
  ⟨.root, place⟩

/-- The path from the root that leads to the same place. -/
def resolve
    (workingDirectory : List String)
    (path : Path) : Path :=
  ofPlace (path.placeFrom workingDirectory)

end Path

/-- The path of a template, which stands beside the output. -/
def templatePath
    (output : Path)
    (filename : String) : Path :=
  output.sibling filename

end Tablewright.Files
