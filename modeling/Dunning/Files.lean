import Dunning.Text.Pieces
import Dunning.Text.Case

/-!
# Files — files by path

`Files` says what a path leads to. A directory can be opened but not read, so its fault shows only
when its contents are wanted. `Files.ofList` is a folder with files in it, as seen from inside.
-/

namespace Dunning

/-- Why a file cannot be had. -/
inductive FileFault where
  | notFound
  | notDirectory
  | isDirectory
  | nameTooLong
  | nameWithNul
  | other (reason : String)
  deriving Repr, DecidableEq

/-- The wording of a fault. -/
def FileFault.message : FileFault → String
  | .notFound => "No such file or directory (os error 2)"
  | .notDirectory => "Not a directory (os error 20)"
  | .isDirectory => "Is a directory (os error 21)"
  | .nameTooLong => "File name too long (os error 36)"
  | .nameWithNul => "file name contained an unexpected NUL byte"
  | .other reason => reason

/-- What opening a path gives. -/
inductive Opened where
  | file (bytes : List UInt8)
  | directory
  deriving Repr, DecidableEq

/-- What stands behind an open path. -/
def Opened.read : Opened → Except FileFault (List UInt8)
  | .file bytes => .ok bytes
  | .directory => .error .isDirectory

/-- What every path leads to. -/
abbrev Files : Type := String → Except FileFault Opened

namespace Path

open Dunning.Text

/-- The steps of a path; a step to the same place is none. -/
def steps (path : String) : List String :=
  (split '/' path).filter fun step => step != "" && step != "."

/-- The last step, unless it leads upwards. -/
def name? (path : String) : Option String :=
  match (steps path).getLast? with
  | some step => if step = ".." then none else some step
  | none => none

/-- A name without its extension, and the extension. A point at the start of a name opens none. -/
def splitName (name : String) : String × Option String :=
  match cut? '.' name.toList.reverse with
  | some (_, []) => (name, none)
  | some (after, before) => (String.ofList before.reverse, some (String.ofList after.reverse))
  | none => (name, none)

/-- The extension of a path. -/
def extension? (path : String) : Option String :=
  (name? path).bind fun name => (splitName name).2

/-- The name of a path without its extension. -/
def stem? (path : String) : Option String :=
  (name? path).map fun name => (splitName name).1

/-- The path names a JSON document. -/
def isDocument (path : String) : Bool :=
  ((extension? path).map lowerAscii) == some "json"

end Path

namespace Files

open Dunning.Text

/-- Follows steps from a place in a folder, which is given by the steps to it. -/
def follow (files : List (List String × List UInt8)) : List String → List String →
    Except FileFault Opened
  | place, [] =>
    match files.find? fun (path, _) => path == place with
    | some (_, bytes) => .ok (.file bytes)
    | none => .ok .directory
  | place, step :: steps =>
    if (files.find? fun (path, _) => path == place).isSome then .error .notDirectory
    else if step = ".." then
      if place.isEmpty then .error .notFound else follow files place.dropLast steps
    else if 255 < step.utf8ByteSize then .error .nameTooLong
    else if files.any fun (path, _) => (place ++ [step]).isPrefixOf path then
      follow files (place ++ [step]) steps
    else .error .notFound

/-- The files of a folder, as seen from inside. -/
def ofList (files : List (String × List UInt8)) : Files := fun path =>
  let known := files.map fun (name, bytes) => (Path.steps name, bytes)
  if path.toList.contains (Char.ofNat 0) then .error .nameWithNul
  else if path = "" || path.startsWith "/" then .error .notFound
  else match follow known [] (Path.steps path) with
    | .ok (.file bytes) => if path.endsWith "/" then .error .notDirectory else .ok (.file bytes)
    | other => other

end Files

end Dunning
