import IndicatorScript.Files

/-!
# Trees of files

Files held in memory, below the directory that relative paths start from. Of what lies outside of it there are the
root, the directories of devices and of temporary files, and the device that swallows what is written to it.
-/

namespace IndicatorScript.Files

structure Tree where
  /-- Each file's path in parts, with its text. -/
  files : List (List String × String)

namespace Tree

inductive Start where
  | here
  | root
  /-- Outside, where the names of files are not known. -/
  | outside
  deriving DecidableEq, Repr

structure Location where
  start : Start
  parts : List String
  deriving DecidableEq, Repr

inductive Entry where
  | file (text : String)
  | directory
  deriving DecidableEq, Repr

def ofList (files : List (String × String)) : Tree :=
  ⟨files.map fun (path, text) => ((Path.ofText path).parts, text)⟩

def systemEntries : List (List String × Entry) :=
  [ ([], .directory), (["dev"], .directory), (["tmp"], .directory), (["dev", "null"], .file "") ]

def contentAt? (tree : Tree) (location : Location) : Option Entry :=
  match location.start with
  | .here =>
      match tree.files.lookup location.parts with
      | some text => some (.file text)
      | none =>
          if location.parts.isEmpty || tree.files.any fun (parts, _) => location.parts.isPrefixOf parts then
            some .directory
          else none
  | .root => systemEntries.lookup location.parts
  | .outside => if location.parts.isEmpty then some .directory else none

def Location.parent (location : Location) : Location :=
  match location.start, location.parts with
  | .here, [] => ⟨.outside, []⟩
  | start, parts => ⟨start, parts.dropLast⟩

def longestName : Nat := 255

def longestPath : Nat := 4095

def step (tree : Tree) (location : Location) (part : String) : Except FileError Location :=
  match tree.contentAt? location with
  | none => .error .missing
  | some (.file _) => .error .notDirectory
  | some .directory =>
      if part = "" ∨ part = "." then .ok location
      else if part = ".." then .ok location.parent
      else if longestName < part.utf8ByteSize then .error .nameTooLong
      else .ok { location with parts := location.parts ++ [part] }

/-- The place that a path leads to. Everything before its last part exists. -/
def locate (tree : Tree) (path : String) : Except FileError Location :=
  if path.contains '\x00' then .error .nullCharacter
  else if path = "" then .error .missing
  else if longestPath < path.utf8ByteSize then .error .nameTooLong
  else
    let start : Start := if path.toList.head? = some '/' then .root else .here
    (path.splitOn "/").foldlM tree.step ⟨start, []⟩

def find (tree : Tree) (path : String) : Except FileError Entry := do
  match tree.contentAt? (← tree.locate path) with
  | some entry => .ok entry
  | none => .error .missing

def read (tree : Tree) (path : String) : Except FileError String := do
  match ← tree.find path with
  | .file text => .ok text
  | .directory => .error .directory

def isDirectory (tree : Tree) (path : String) : Except FileError Bool :=
  match tree.find path with
  | .ok entry => .ok (entry = .directory)
  | .error .nameTooLong => .error .nameTooLong
  | .error _ => .ok false

def blocked? (tree : Tree) (path : String) : Option FileError :=
  let stem := dropSlashes path
  let isFolder := path.endsWith "/"
  match tree.locate (if stem = "" then path else stem) with
  | .error e => some e
  | .ok location =>
      match tree.contentAt? location with
      | some .directory => some .directory
      | some (.file _) => if isFolder then some .notDirectory else none
      | none => if isFolder then some .directory else none

def unmakable? (tree : Tree) (location : Location) : List String → Option FileError
  | [] => none
  | part :: rest =>
      match tree.step location part with
      | .error .missing => none
      | .error e => some e
      | .ok next =>
          match tree.contentAt? next with
          | some (.file _) => some (if rest.isEmpty then .system 17 "File exists" else .notDirectory)
          | _ => tree.unmakable? next rest

def logBlocked? (tree : Tree) (path : String) : Option FileError :=
  if path.contains '\x00' then some .nullCharacter
  else
    let start : Start := if path.toList.head? = some '/' then .root else .here
    (tree.unmakable? ⟨start, []⟩ (path.splitOn "/").dropLast).or
      (match tree.blocked? path with
        | some .missing => none
        | blocked => blocked)

/-- Nothing is known of the homes of users. -/
def toFiles (tree : Tree) : Files where
  read := tree.read
  readPacked packing path := (tree.read path).map (Csv.unpacked packing)
  isDirectory := tree.isDirectory
  blocked? := tree.blocked?
  logBlocked? := tree.logBlocked?
  home? _ := none

def written? (tree : Tree) (path : String) : Option String :=
  match tree.locate path with
  | .ok ⟨.here, parts⟩ => some ("/".intercalate parts)
  | _ => none

end Tree

end IndicatorScript.Files
