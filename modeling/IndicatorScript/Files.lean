import IndicatorScript.Csv.Packed

/-!
# Files

What a run can do with files: read the text of one, and ask where a file can be written. Paths are texts as callers
give them, and messages show them that way.
-/

namespace IndicatorScript

inductive FileError where
  | missing
  | directory
  /-- A file stands where a directory would have to be. -/
  | notDirectory
  | nameTooLong
  /-- Anything else that the system reports, by its number and its text. -/
  | system (number : Nat) (text : String)
  | nullCharacter
  /-- The octets of the file are no text, for a reason given. -/
  | undecodable (reason : String)
  deriving DecidableEq, Repr

def FileError.message (path : String) : FileError → String
  | .missing => "[Errno 2] No such file or directory: " ++ Text.quoted path
  | .directory => "[Errno 21] Is a directory: " ++ Text.quoted path
  | .notDirectory => "[Errno 20] Not a directory: " ++ Text.quoted path
  | .nameTooLong => "[Errno 36] File name too long: " ++ Text.quoted path
  | .system number text => "[Errno " ++ toString number ++ "] " ++ text ++ ": " ++ Text.quoted path
  | .nullCharacter => "embedded null byte"
  | .undecodable reason => reason

def FileError.isSystem : FileError → Bool
  | .nullCharacter | .undecodable _ => false
  | _ => true

structure Files where
  read : String → Except FileError String
  /-- The text that a packed file unpacks to, or what is wrong with it. -/
  readPacked : Csv.Packing → String → Except FileError (Except Csv.PackedError String)
  /-- Whether a path leads to a directory. -/
  isDirectory : String → Except FileError Bool
  /-- Why no file can be written at a path whose directory exists. -/
  blocked? : String → Option FileError
  /-- Why no log can be kept at a path, whose directories are made. -/
  logBlocked? : String → Option FileError
  /-- The home directory of a user, or of whoever runs the program if no user is named. -/
  home? : String → Option String

structure WrittenFile where
  path : String
  packing : Option Csv.Packing
  text : String
  deriving DecidableEq, Repr

/-! ## Paths -/

structure Path where
  /-- The slashes in front: none, one, or two. -/
  root : String
  parts : List String
  deriving DecidableEq, Repr

namespace Path

/-- Three or more slashes in front are as good as one. -/
def ofText (text : String) : Path where
  root :=
    match (text.toList.takeWhile (· = '/')).length with
    | 0 => ""
    | 2 => "//"
    | _ => "/"
  parts := (text.splitOn "/").filter fun part => part ≠ "" && part ≠ "."

def text (path : Path) : String :=
  if path.root = "" ∧ path.parts.isEmpty then "." else path.root ++ "/".intercalate path.parts

def parent (path : Path) : Path := { path with parts := path.parts.dropLast }

end Path

def dropSlashes (path : String) : String :=
  String.ofList (path.toList.reverse.dropWhile (· = '/')).reverse

def Files.expand (files : Files) (path : String) : String :=
  match path.toList with
  | '~' :: rest =>
      let user := rest.takeWhile (· ≠ '/')
      match files.home? (String.ofList user) with
      | none => path
      | some home =>
          let expanded := dropSlashes home ++ String.ofList (rest.drop user.length)
          if expanded = "" then "/" else expanded
  | _ => path

end IndicatorScript
