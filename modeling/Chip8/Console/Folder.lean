import Chip8.Failure
import Chip8.FileName
import Chip8.Rom

/-!
# Files and paths

The files that a run of the console program finds, and where paths lead among them. A path is
followed step by step, from the root if it begins with a slash and else from the working directory.
No step leads on from a file, and every step but the last has to lead to something that is there.
-/

namespace Chip8

/-- A way from the root: the names of directories, and last the name that it leads to. -/
abbrev Place := List Text

/-- Directories and files with their contents, and the working directory. -/
structure Folder where
  here : Place
  directories : List Place
  files : List (Place × Rom)

/-- Where a path leads: to a directory, to a file, or to a place where a file can be made. -/
inductive Spot
  | directory
  | file (place : Place) (content : Rom)
  | vacant (place : Place)

namespace Folder

/-! ## What is there -/

/-- The content of the file at a place. -/
def content? (folder : Folder) (place : Place) : Option Rom :=
  (folder.files.find? fun (p, _) => p == place).map (·.2)

/-- A place is a directory if it is one by itself or if something is in it. -/
def isDirectory (folder : Folder) (place : Place) : Bool :=
  place.isEmpty || place.isPrefixOf folder.here || folder.directories.any place.isPrefixOf ||
    folder.files.any fun (p, _) => place.isPrefixOf p && p != place

/-! ## Following a path -/

/-- The greatest number of bytes in the name of a file. -/
def maxNameSize : Nat := 255

/-- The greatest number of bytes in a path. -/
def maxPathSize : Nat := 4095

/-- The number of bytes of a name. -/
def nameSize (name : Text) : Nat := name.foldl (fun n s => n + s.size?.getD 0) 0

/-- A name that stays in the same directory. -/
def staysInPlace (step : Text) : Bool := step.isEmpty || step == [FileName.point]

/-- The name that leads out of a directory. -/
def parentName : Text := [FileName.point, FileName.point]

/-- Follow the steps of a path from a place; `path` is the whole path. -/
def follow (folder : Folder) (path : Text) (place : Place) :
    List Text → Except Failure Spot
  | [] =>
    match folder.content? place with
    | some content => .ok (.file place content)
    | none => .ok .directory
  | step :: steps =>
    if (folder.content? place).isSome then .error (.fileAsDirectory path)
    else if staysInPlace step then folder.follow path place steps
    else if step = parentName then folder.follow path place.dropLast steps
    else if maxNameSize < nameSize step then .error (.nameTooLong path)
    else
      let next := place ++ [step]
      if (folder.content? next).isSome || folder.isDirectory next then folder.follow path next steps
      else if steps.isEmpty then .ok (.vacant next)
      else .error (.missingFile path)

/-- A path can be followed. -/
def checkPath (path : Text) : Except Failure Unit :=
  if path.any (·.size?.isNone) then
    .error (.halfInName path (path.findIdx (·.size?.isNone)))
  else if path.contains (.char (Char.ofNat 0)) then .error .nullInName
  else if path.isEmpty then .error (.missingFile path)
  else if maxPathSize < nameSize path then .error (.nameTooLong path)
  else .ok ()

/-- Follow steps from where a path starts. -/
def walk (folder : Folder) (path : Text) (steps : List Text) : Except Failure Spot :=
  folder.follow path (if path.head? = some FileName.slash then [] else folder.here) steps

/-- Where a path leads. -/
def locate (folder : Folder) (path : Text) : Except Failure Spot := do
  checkPath path
  folder.walk path (path.split FileName.slash)

/-! ## Reading and writing -/

/-- The content of the file that a path leads to. -/
def read (folder : Folder) (path : Text) : Except Failure Rom := do
  match ← folder.locate path with
  | .directory => .error (.directoryAsFile path)
  | .file _ content => .ok content
  | .vacant _ => .error (.missingFile path)

/-- The steps before a name with a slash behind it, if a path ends in such a name. -/
def beforeSlashedName? (path : Text) : Option (List Text) :=
  match (path.split FileName.slash).reverse with
  | [] :: steps =>
    match steps.dropWhile (·.isEmpty) with
    | name :: parents =>
      if staysInPlace name || name == parentName then none else some parents.reverse
    | [] => none
  | _ => none

/--
The place of the file that is written when a path is given. With a slash behind its last name, a
path is taken for that of a directory, whatever the name leads to.
-/
def target (folder : Folder) (path : Text) : Except Failure Place := do
  checkPath path
  match beforeSlashedName? path with
  | some parents =>
    match ← folder.walk path (parents ++ [[]]) with
    | .directory => .error (.directoryAsFile path)
    | _ => .error (.missingFile path)
  | none =>
    match ← folder.locate path with
    | .directory => .error (.directoryAsFile path)
    | .file place _ => .ok place
    | .vacant place => .ok place

/-- Write a file. -/
def write (folder : Folder) (path : Text) (content : Rom) : Except Failure Folder := do
  let place ← folder.target path
  return { folder with files := (place, content) :: folder.files }

/-- Write files one after the other. -/
def writeAll (folder : Folder) (files : List (Text × Rom)) : Except Failure Folder :=
  files.foldlM (fun folder (path, content) => folder.write path content) folder

/-- The path from the working directory to a place in it. -/
def pathTo? (folder : Folder) (place : Place) : Option Text :=
  if folder.here.isPrefixOf place then
    some (Text.join [FileName.slash] (place.drop folder.here.length))
  else none

end Folder

end Chip8
