/-!
# Files

A set of files by their names, and what reading a path among them finds.  A path is followed step by step
from the directory that holds them all; each step but the last has to lead to a directory.  Directories
that are only named as part of a longer name exist as well.
-/

namespace BadgeLink

/-- Why a path cannot be read as a text. -/
inductive FileFault
  | notFound
  | isDirectory
  | notDirectory
  | nameTooLong
  | nulByte
  | notText
  | other (message : String)
  deriving Repr, DecidableEq

def FileFault.message : FileFault → String
  | notFound => "No such file or directory (os error 2)"
  | isDirectory => "Is a directory (os error 21)"
  | notDirectory => "Not a directory (os error 20)"
  | nameTooLong => "File name too long (os error 36)"
  | nulByte => "file name contained an unexpected NUL byte"
  | notText => "stream did not contain valid UTF-8"
  | other message => message

/-- What a name stands for. -/
inductive FileContent
  | bytes (data : List UInt8)
  | directory
  deriving Repr, DecidableEq

/-- Names with what they stand for. -/
abbrev Files : Type :=
  List (String × FileContent)

namespace Files

/-- The longest step of a path, in bytes. -/
def maxStep : Nat :=
  255

def maxPath : Nat :=
  4095

/-- The steps of a path; an empty step stays where it is, as a dot does. -/
def steps (path : String) : List String :=
  (path.split '/').toList.map (·.toString)

def nameSteps (name : String) : List String :=
  (steps name).filter fun step => step != "" && step != "."

/-- What stands at a place, which is given by the steps to it. -/
def at? (files : Files) (place : List String) : Option FileContent :=
  if place.isEmpty then some .directory
  else
    match files.find? fun file => nameSteps file.1 == place with
    | some file => some file.2
    | none =>
      if files.any fun file => place.isPrefixOf (nameSteps file.1) then some .directory else none

/-- Follows steps from a place.  Above the common directory nothing is known but that it is there, so
`above` counts the directories between the two. -/
def follow (files : Files) (above : Nat) (place : List String) :
    List String → Except FileFault (List UInt8)
  | [] =>
    match files.at? place with
    | none => .error .notFound
    | some .directory => .error .isDirectory
    | some (.bytes data) => .ok data
  | step :: rest =>
    match files.at? place with
    | none => .error .notFound
    | some (.bytes _) => .error .notDirectory
    | some .directory =>
      if step = "" ∨ step = "." then follow files above place rest
      else if step = ".." then
        if place.isEmpty then follow files (above + 1) [] rest
        else follow files above place.dropLast rest
      else if maxStep < step.utf8ByteSize then .error .nameTooLong
      else if 0 < above then .error .notFound
      else follow files above (place ++ [step]) rest

/-- Reads a path.  What is absolute lies elsewhere, except for the root. -/
def read (files : Files) (path : String) : Except FileFault (List UInt8) :=
  if path.toList.contains '\x00' then .error .nulByte
  else if path.isEmpty then .error .notFound
  else if maxPath < path.utf8ByteSize then .error .nameTooLong
  else files.follow (if path.startsWith "/" then 1 else 0) [] (steps path)

def decode (data : List UInt8) : Except FileFault String :=
  match String.fromUTF8? ⟨data.toArray⟩ with
  | some text => .ok text
  | none => .error .notText

end Files
end BadgeLink
