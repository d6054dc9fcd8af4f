/-!
# Files

How a command has the content of a file. A `Folder` is a fixed set of files in which paths are
followed as the system follows them: a part of a path is a file, a folder, or not there.
-/

namespace Formwork.Command

/-- Why a file cannot be read. -/
inductive FileFault where
  | missing
  /-- A part of the path that is not the last one is a file. -/
  | notFolder
  | isFolder
  | longName
  | forbidden
  /-- The content is no text. -/
  | notText
  | other (reason : String)
deriving Repr, DecidableEq

namespace FileFault

/-- The faults that the system has a number for, with its words. -/
def known : FileFault → Option (Nat × String)
  | missing => some (2, "No such file or directory")
  | forbidden => some (13, "Permission denied")
  | notFolder => some (20, "Not a directory")
  | isFolder => some (21, "Is a directory")
  | longName => some (36, "File name too long")
  | notText | other _ => none

/-- The fault of a number. -/
def ofNumber? (number : Nat) : Option FileFault :=
  [missing, forbidden, notFolder, isFolder, longName].find? fun fault =>
    (fault.known.map (·.1)) == some number

/-- What a message says about a fault. -/
def describe (fault : FileFault) : String :=
  match fault.known, fault with
  | some (number, words), _ => words ++ " (os error " ++ toString number ++ ")"
  | none, other reason => reason
  | none, _ => "stream did not contain valid UTF-8"

end FileFault

/-- How the content of a file is had, or why it is not. -/
abbrev Files := String → Except FileFault String

/-- The files of a folder and of the folders in it, each by the parts of its path. -/
abbrev Folder := List (List String × String)

namespace Folder

/-- The largest number of bytes of a name. -/
def maxName : Nat := 255

/-- The largest number of bytes of a path. -/
def maxPath : Nat := 4095

/-- Follows the parts of a path from a folder inside, which is given by the parts of its own path.
Nothing is known to be outside. -/
def follow (folder : Folder) : Option (List String) → List String → Except FileFault String
  | _, [] => .error .isFolder
  | here, part :: rest =>
    if part = "" || part = "." then follow folder here rest
    else
      match part, here with
      | "..", some (_ :: _) => follow folder (here.map List.dropLast) rest
      | "..", _ => follow folder none rest
      | _, none => .error .missing
      | _, some here =>
        let path := here ++ [part]
        match folder.lookup path with
        | some content => if rest.isEmpty then .ok content else .error .notFolder
        | none =>
          if folder.any fun file => path.isPrefixOf file.1 then follow folder (some path) rest
          else .error (if maxName < part.utf8ByteSize then .longName else .missing)

/-- The files that paths lead to from the folder. A path from the root leads outside, where there is
the null device, which is empty. -/
def files (folder : Folder) : Files := fun path =>
  if maxPath < path.utf8ByteSize then .error .longName
  else
    match path.splitOn "/" with
    | [""] => .error .missing
    | ["", "dev", "null"] => .ok ""
    | "" :: rest => folder.follow none rest
    | parts => folder.follow (some []) parts

end Folder

end Formwork.Command
